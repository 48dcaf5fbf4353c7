import CanvasScript.Picture.Painter
import CanvasScript.Proofs.Fault

/-!
# The size of a picture

Painting changes pixels. The picture of a canvas has the size of the canvas, whatever is painted.

* `SameSize`: an image is as wide and as high as another one.

Results:
* `SameSize.foldl`: what each step of painting keeps, all of them keep.
* `sameSize_paint`, `sameSize_drawText`: painting shapes and texts.
* `sameSize_paintLayers`: painting layers, if that is possible.
* `size_of_renderImage`: the picture of a canvas.
-/

namespace CanvasScript.Picture

open Canvas Storage

/-- The images are equally wide and equally high. -/
structure SameSize (i i' : Image) : Prop where
  width : i'.width = i.width
  height : i'.height = i.height

namespace SameSize

variable {i i₁ i' : Image}

theorem refl (i : Image) : SameSize i i :=
  ⟨rfl, rfl⟩

theorem trans (h : SameSize i i₁) (h' : SameSize i₁ i') : SameSize i i' :=
  ⟨h'.width.trans h.width, h'.height.trans h.height⟩

/-- What each step keeps, all of them keep. The image may be a part of what goes through them. -/
theorem foldl_view {σ β : Type} (view : σ → Image) {f : σ → β → σ}
    (hf : ∀ s b, SameSize (view s) (view (f s b))) (l : List β) (s : σ) :
    SameSize (view s) (view (l.foldl f s)) := by
  induction l generalizing s with
  | nil => exact .refl _
  | cons b l ih => exact (hf s b).trans (ih (f s b))

theorem foldl {β : Type} {f : Image → β → Image} (hf : ∀ i b, SameSize i (f i b)) (l : List β)
    (i : Image) : SameSize i (l.foldl f i) :=
  foldl_view id hf l i

end SameSize

/-! ## Pixels -/

theorem sameSize_modify (i : Image) (x y : Nat) (f : Colour → Colour) :
    SameSize i (i.modify x y f) := by
  unfold Image.modify Image.set
  dsimp only
  split
  · exact ⟨rfl, rfl⟩
  · exact .refl i

theorem sameSize_paintPixel (colour : Colour) (distance? : Float32 → Float32 → Option Float32)
    (covers : Float32 → Bool) (i : Image) (pixel : Nat × Nat) :
    SameSize i (paintPixel colour distance? covers i pixel) := by
  unfold paintPixel
  dsimp only
  split
  · split
    · exact sameSize_modify ..
    · exact .refl i
  · exact .refl i

theorem sameSize_paint (i : Image) (region : Region) (colour : Colour)
    (distance? : Float32 → Float32 → Option Float32) (covers : Float32 → Bool) :
    SameSize i (paint i region colour distance? covers) := by
  unfold paint
  split
  · exact .refl i
  · exact .foldl (sameSize_paintPixel colour distance? covers) _ i

/-! ## Shapes -/

theorem sameSize_paintOutline (i : Image) (region : Region) (outline? : Option Outline)
    (distance? : Float32 → Float32 → Option Float32) :
    SameSize i (paintOutline i region outline? distance?) := by
  unfold paintOutline
  split
  · exact sameSize_paint ..
  · exact .refl i

theorem sameSize_paintBoth (i : Image) (region : Region) (p : Paint) (outline? : Option Outline)
    (distance? : Float32 → Float32 → Option Float32) :
    SameSize i (paintBoth i region p outline? distance?) :=
  (sameSize_paint ..).trans (sameSize_paintOutline ..)

theorem sameSize_paintArc (i : Image) (x y : Int) (radius : Nat) (p : Paint)
    (start stop : Float32) (outline? : Option Outline) :
    SameSize i (paintArc i x y radius p start stop outline?) := by
  unfold paintArc
  dsimp only
  split
  · exact .refl i
  · exact sameSize_paintBoth ..

theorem sameSize_paintCircle (i : Image) (x y : Int) (radius : Nat) (p : Paint)
    (outline? : Option Outline) : SameSize i (paintCircle i x y radius p outline?) := by
  unfold paintCircle
  dsimp only
  split
  · exact .refl i
  · exact sameSize_paintBoth ..

theorem sameSize_paintEllipse (i : Image) (x y : Int) (size : BoxSize) (p : Paint)
    (outline? : Option Outline) : SameSize i (paintEllipse i x y size p outline?) := by
  unfold paintEllipse
  dsimp only
  split
  · exact .refl i
  · exact sameSize_paintBoth ..

/-! ## Images and texts -/

theorem sameSize_paintTexel (source : Image) (box : CentredBox) (i : Image) (pixel : Nat × Nat) :
    SameSize i (paintTexel source box i pixel) := by
  unfold paintTexel
  dsimp only
  split
  · exact .refl i
  · split
    · exact .refl i
    · exact sameSize_modify ..

theorem sameSize_paintImage (i : Image) (x y : Int) (size : BoxSize) (source : Image)
    (outline? : Option Outline) : SameSize i (paintImage i x y size source outline?) := by
  unfold paintImage
  dsimp only
  split
  · exact .refl i
  · split
    · exact .refl i
    · have htexels := SameSize.foldl (sameSize_paintTexel source (centredBox x y size))
      exact (htexels _ i).trans (sameSize_paintOutline ..)

theorem sameSize_blendAt (i : Image) (x y : Int) (colour : Colour) (coverage : Float32) :
    SameSize i (blendAt i x y colour coverage) := by
  unfold blendAt
  split
  · exact sameSize_modify ..
  · exact .refl i

/-- Cells are visited one after the other. -/
theorem sameSize_visit (g : Grid) {f : Image → Nat → Nat → Float32 → Image}
    (hf : ∀ i column row coverage, SameSize i (f i column row coverage)) (i : Image) :
    SameSize i (g.visit f i) := by
  unfold Grid.visit
  rw [← Array.foldl_toList]
  refine SameSize.foldl_view (fun acc : Nat × Float32 × Image => acc.2.2) (fun acc v => ?_) _
    (0, 0, i)
  exact hf ..

theorem sameSize_drawGlyph (i : Image) (p : Placement) (colour : Colour) :
    SameSize i (drawGlyph i p colour) := by
  unfold drawGlyph
  split
  · exact .refl i
  · split
    · exact .refl i
    · exact sameSize_visit _ (fun i column row coverage => sameSize_blendAt ..) i

theorem sameSize_drawLine (t : Typeface) (size : Float32) (colour : Colour) (align : TextAlign)
    (x y : Float32) (i : Image) (line : List Char) :
    SameSize i (drawLine t size colour align x y i line) :=
  .foldl (fun i _ => sameSize_drawGlyph i _ colour) _ i

theorem sameSize_drawText (t : Typeface) (size : Float32) (colour : Colour) (align : TextAlign)
    (text : String) (x y : Int) (i : Image) :
    SameSize i (drawText t size colour align text x y i) :=
  .foldl (fun i _ => sameSize_drawLine t size colour align _ _ i _) _ i

/-! ## Layers -/

theorem sameSize_paintLayer {fs : FileSystem} {faces : Typefaces} {known known' : Sources}
    {i i' : Image} {l : Layer} (h : paintLayer fs faces known i l = .ok (i', known')) :
    SameSize i i' := by
  unfold paintLayer at h
  split at h
  · cases h
    exact sameSize_paintArc ..
  · cases h
    exact sameSize_paintCircle ..
  · cases h
    exact sameSize_paintEllipse ..
  · obtain ⟨⟨source, known₁⟩, -, h⟩ := of_bind_ok h
    cases h
    exact sameSize_paintImage ..
  · obtain ⟨t, -, h⟩ := of_bind_ok h
    cases h
    exact sameSize_drawText ..

theorem sameSize_paintLayers {fs : FileSystem} {faces : Typefaces} {layers : List Layer}
    {known : Sources} {i i' : Image} (h : paintLayers fs faces layers known i = .ok i') :
    SameSize i i' := by
  induction layers generalizing known i with
  | nil =>
    cases h
    exact .refl _
  | cons l ls ih =>
    obtain ⟨⟨i₁, known₁⟩, hfirst, hrest⟩ := of_bind_ok h
    exact (sameSize_paintLayer hfirst).trans (ih hrest)

/-- The picture of a canvas has the size of the canvas. -/
theorem size_of_renderImage {fs : FileSystem} {c : Canvas} {i : Image}
    (h : renderImage fs c = .ok i) : i.width = c.width ∧ i.height = c.height := by
  obtain ⟨faces, -, h⟩ := of_bind_ok h
  have hsize := sameSize_paintLayers h
  exact ⟨hsize.width, hsize.height⟩

end CanvasScript.Picture
