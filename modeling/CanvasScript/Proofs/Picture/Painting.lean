import CanvasScript.Proofs.Picture.Size

/-!
# Painting pixel by pixel

Painting goes through the pixels of a region and blends the colour into those that are covered. What
becomes of a pixel has nothing to do with the others: each is visited once, in whatever order.

* `Image.Has`: a pixel of an image, not one beyond its edges.
* `Region.Contains`, `Region.Within`: a pixel of a region; a region that lies inside an image.
* `RowMajor`: one pixel comes before another, row by row.
* `Covered`: the centre of a pixel is at a distance that is covered.
* `PaintedOver`: what painting has to make of an image, in the pixels that it `Inks` and in the others.

Results:
* `Image.get_modify`, `Image.ext_get`: one pixel changes, and an image is made of its pixels.
* `Region.enumerates_pixels`: the pixels of a region, each once.
* `get_paintPixel`, `get_foldl_paintPixel`: one pixel painted, and then some in any order.
* `paint_pointwise`: all of it for a region inside an image.
-/

namespace CanvasScript.Picture

open Number

/-! ## The pixels of an image -/

namespace Image

variable {i i' : Image} {x y x' y' : Nat}

/-- The image has a pixel in column `x` of row `y`. -/
def Has (i : Image) (x y : Nat) : Prop :=
  x < i.width ∧ y < i.height

theorem Has.of_sameSize (h : i.Has x y) (hs : SameSize i i') : i'.Has x y := by
  unfold Has
  rwa [hs.width, hs.height]

theorem Has.index_lt (h : i.Has x y) : y * i.width + x < i.pixels.size :=
  calc y * i.width + x
      < y * i.width + i.width := Nat.add_lt_add_left h.1 _
    _ = (y + 1) * i.width := (Nat.succ_mul y i.width).symm
    _ ≤ i.height * i.width := Nat.mul_le_mul_right _ h.2
    _ = i.pixels.size := by rw [i.complete, Nat.mul_comm]

/-- Two pixels within the width of an image are kept in the same place only if they are the same. -/
theorem index_eq_iff {width : Nat} (hx : x < width) (hx' : x' < width) :
    y * width + x = y' * width + x' ↔ x = x' ∧ y = y' := by
  have hposition : ∀ a b, a < width →
      (b * width + a) / width = b ∧ (b * width + a) % width = a := fun a b ha =>
    (Nat.div_mod_unique (Nat.zero_lt_of_lt ha)).2 ⟨by rw [Nat.mul_comm, Nat.add_comm], ha⟩
  constructor
  · intro h
    obtain ⟨hrow, hcolumn⟩ := hposition x y hx
    obtain ⟨hrow', hcolumn'⟩ := hposition x' y' hx'
    rw [h] at hrow hcolumn
    exact ⟨hcolumn.symm.trans hcolumn', hrow.symm.trans hrow'⟩
  · rintro ⟨rfl, rfl⟩
    rfl

theorem get_set (h : i.Has x y) (c : Colour) :
    (i.set x y c).get x' y' = if x' = x ∧ y' = y then c else i.get x' y' := by
  have hset : i.set x y c =
      { i with pixels := i.pixels.setIfInBounds (y * i.width + x) c
               complete := by simpa using i.complete } := if_pos h.1
  rw [hset]
  unfold get
  dsimp only
  by_cases hx' : x' < i.width
  · rw [if_pos hx', if_pos hx', Array.getD_eq_getD_getElem?, Array.getElem?_setIfInBounds,
      Array.getD_eq_getD_getElem?]
    by_cases heq : x' = x ∧ y' = y
    · obtain ⟨rfl, rfl⟩ := heq
      rw [if_pos rfl, if_pos h.index_lt, if_pos ⟨rfl, rfl⟩]
      rfl
    · have hne : ¬ y * i.width + x = y' * i.width + x' := fun hindex =>
        heq (((index_eq_iff h.1 hx').1 hindex).imp Eq.symm Eq.symm)
      rw [if_neg hne, if_neg heq]
  · have hne : ¬ (x' = x ∧ y' = y) := fun heq => hx' (heq.1 ▸ h.1)
    rw [if_neg hx', if_neg hx', if_neg hne]

/-- One pixel changes. -/
theorem get_modify (h : i.Has x y) (f : Colour → Colour) :
    (i.modify x y f).get x' y' = if x' = x ∧ y' = y then f (i.get x y) else i.get x' y' :=
  get_set h (f (i.get x y))

/-- An image is made of its pixels. -/
theorem ext_get (hs : SameSize i i') (h : ∀ x y, i'.get x y = i.get x y) : i' = i := by
  obtain ⟨width, height, pixels, hcomplete⟩ := i
  obtain ⟨width', height', pixels', hcomplete'⟩ := i'
  obtain ⟨rfl, rfl⟩ : width' = width ∧ height' = height := ⟨hs.width, hs.height⟩
  have hpixels : pixels' = pixels := by
    refine Array.ext (hcomplete'.trans hcomplete.symm) fun k hk' hk => ?_
    -- Place `k` holds column `k % width'` of row `k / width'`.
    have hwidth : 0 < width' := Nat.pos_of_mul_pos_right (hcomplete' ▸ Nat.zero_lt_of_lt hk')
    have hindex : k / width' * width' + k % width' = k := Nat.div_add_mod' k width'
    have hget := h (k % width') (k / width')
    simp only [get, if_pos (Nat.mod_lt k hwidth), hindex] at hget
    simpa [hk, hk'] using hget
  subst hpixels
  rfl

end Image

/-! ## The pixels of a region -/

/-- The pixel `p` comes before `q`: it lies in a row above, or further left in the same row. -/
def RowMajor (p q : Nat × Nat) : Prop :=
  p.2 < q.2 ∨ p.2 = q.2 ∧ p.1 < q.1

namespace Region

variable {r : Region} {x y : Nat}

/-- The pixel in column `x` of row `y` lies in the rectangle. -/
def Contains (r : Region) (x y : Nat) : Prop :=
  (r.left ≤ x ∧ x < r.right) ∧ r.top ≤ y ∧ y < r.bottom

instance (r : Region) (x y : Nat) : Decidable (r.Contains x y) :=
  inferInstanceAs (Decidable (_ ∧ _))

/-- All of the rectangle lies inside an image. -/
def Within (r : Region) (i : Image) : Prop :=
  ∀ x y, r.Contains x y → i.Has x y

theorem mem_range'_sub {first limit k : Nat} :
    k ∈ List.range' first (limit - first) ↔ first ≤ k ∧ k < limit := by
  rw [List.mem_range'_1]
  omega

theorem mem_row_iff {p : Nat × Nat} : p ∈ r.row y ↔ (r.left ≤ p.1 ∧ p.1 < r.right) ∧ p.2 = y := by
  unfold row
  rw [List.mem_map]
  constructor
  · rintro ⟨x, hx, rfl⟩
    exact ⟨mem_range'_sub.1 hx, rfl⟩
  · rintro ⟨hx, rfl⟩
    exact ⟨p.1, mem_range'_sub.2 hx, rfl⟩

theorem mem_pixels_iff {p : Nat × Nat} : p ∈ r.pixels ↔ r.Contains p.1 p.2 := by
  unfold pixels Contains
  simp only [List.mem_flatMap, mem_range'_sub, mem_row_iff]
  constructor
  · rintro ⟨y, hy, hx, rfl⟩
    exact ⟨hx, hy⟩
  · rintro ⟨hx, hy⟩
    exact ⟨p.2, hy, hx, rfl⟩

theorem pairwise_row (r : Region) (y : Nat) : (r.row y).Pairwise RowMajor :=
  List.pairwise_map.2 ((List.pairwise_lt_range' 1).imp fun hx => .inr ⟨rfl, hx⟩)

theorem pairwise_pixels (r : Region) : r.pixels.Pairwise RowMajor := by
  refine List.pairwise_flatMap.2 ⟨fun y _ => r.pairwise_row y, ?_⟩
  refine (List.pairwise_lt_range' 1).imp fun {y y'} hy p hp q hq => .inl ?_
  rwa [(mem_row_iff.1 hp).2, (mem_row_iff.1 hq).2]

theorem nodup_pixels (r : Region) : r.pixels.Nodup := by
  refine r.pairwise_pixels.imp fun {p q} h heq => ?_
  subst heq
  rcases h with h | ⟨-, h⟩ <;> exact Nat.lt_irrefl _ h

/-- What going through the pixels of a region has to be. -/
structure Enumerates (r : Region) (pixels : List (Nat × Nat)) : Prop where
  /-- Each pixel of the rectangle comes once, and no other one comes. -/
  once : ∀ x y, pixels.count (x, y) = if r.Contains x y then 1 else 0
  /-- Row by row from the top, each from the left. -/
  inOrder : pixels.Pairwise RowMajor

theorem enumerates_pixels (r : Region) : r.Enumerates r.pixels where
  once x y := by
    simp only [r.nodup_pixels.count, mem_pixels_iff]
  inOrder := r.pairwise_pixels

end Region

/-! ## One pixel painted -/

section Paint

variable {image image' image₁ : Image} {region : Region} {colour : Colour}
  {distance? : Float32 → Float32 → Option Float32} {covers : Float32 → Bool}
  {order : List (Nat × Nat)} {p : Nat × Nat} {x y : Nat}

/-- The centre of the pixel is not masked, and it is at a distance that is covered. -/
def Covered (distance? : Float32 → Float32 → Option Float32) (covers : Float32 → Bool)
    (x y : Nat) : Prop :=
  ∃ d, distance? (centre x y).1 (centre x y).2 = some d ∧ covers d = true

instance (distance? : Float32 → Float32 → Option Float32) (covers : Float32 → Bool) (x y : Nat) :
    Decidable (Covered distance? covers x y) :=
  decidable_of_iff ((distance? (centre x y).1 (centre x y).2).any covers = true)
    (by rw [Option.any_eq_true]; rfl)

/-- A transparent colour leaves no trace. -/
theorem blend_of_isTransparent (h : colour.isTransparent) (under : Colour) :
    blend under colour 1 = under := by
  have halpha : colour.alpha = 0 := eq_of_beq h
  have hnone : ofByte 0 / 255 * Single.clamp 1 0 1 ≤ 0 := by decide
  unfold blend
  rw [halpha]
  exact if_pos hnone

theorem paintPixel_of_covered (h : Covered distance? covers p.1 p.2) :
    paintPixel colour distance? covers image p = image.modify p.1 p.2 (blend · colour 1) := by
  obtain ⟨d, hd, hcovers⟩ := h
  unfold paintPixel
  dsimp only
  rw [hd]
  exact if_pos hcovers

theorem paintPixel_of_not_covered (h : ¬ Covered distance? covers p.1 p.2) :
    paintPixel colour distance? covers image p = image := by
  unfold paintPixel
  dsimp only
  split
  · rename_i d hd
    exact if_neg fun hcovers => h ⟨d, hd, hcovers⟩
  · rfl

/-- Painting a pixel leaves the others alone. -/
theorem get_paintPixel (h : image.Has p.1 p.2) :
    (paintPixel colour distance? covers image p).get x y =
      if (x, y) = p ∧ Covered distance? covers x y then blend (image.get x y) colour 1
      else image.get x y := by
  by_cases hc : Covered distance? covers p.1 p.2
  · rw [paintPixel_of_covered hc, Image.get_modify h]
    by_cases hp : (x, y) = p
    · subst hp
      rw [if_pos ⟨rfl, rfl⟩, if_pos ⟨rfl, hc⟩]
    · rw [if_neg fun heq => hp (Prod.ext heq.1 heq.2), if_neg fun hboth => hp hboth.1]
  · rw [paintPixel_of_not_covered hc, if_neg]
    rintro ⟨rfl, hcovered⟩
    exact hc hcovered

/-! ## All pixels painted -/

/-- Pixels that come once each are painted in any order, and each is blended with what was there
before all of them. -/
theorem get_foldl_paintPixel (hn : order.Nodup) (hin : ∀ p ∈ order, image.Has p.1 p.2) (x y : Nat) :
    (order.foldl (paintPixel colour distance? covers) image).get x y =
      if (x, y) ∈ order ∧ Covered distance? covers x y then blend (image.get x y) colour 1
      else image.get x y := by
  induction order generalizing image with
  | nil => exact (if_neg fun hboth => List.not_mem_nil hboth.1).symm
  | cons p order ih =>
    obtain ⟨hp, hrest⟩ := List.nodup_cons.1 hn
    obtain ⟨hfirst, hin⟩ := List.forall_mem_cons.1 hin
    have hkept : ∀ q ∈ order, (paintPixel colour distance? covers image p).Has q.1 q.2 :=
      fun q hq => (hin q hq).of_sameSize (sameSize_paintPixel ..)
    rw [List.foldl_cons, ih hrest hkept, get_paintPixel hfirst]
    -- The first pixel is not painted again; the others have not been touched by it.
    by_cases heq : (x, y) = p
    · have hlater : ¬ ((x, y) ∈ order ∧ Covered distance? covers x y) :=
        fun hboth => hp (heq ▸ hboth.1)
      rw [if_neg hlater]
      simp only [heq, List.mem_cons_self, true_and]
    · simp only [heq, List.mem_cons, false_and, false_or, if_false]

/-- The colour is visible, and the pixel lies in the region and is covered. -/
def Inks (region : Region) (colour : Colour) (distance? : Float32 → Float32 → Option Float32)
    (covers : Float32 → Bool) (x y : Nat) : Prop :=
  region.Contains x y ∧ Covered distance? covers x y ∧ colour.isTransparent = false

/-- What painting has to make of an image. -/
structure PaintedOver (image : Image) (region : Region) (colour : Colour)
    (distance? : Float32 → Float32 → Option Float32) (covers : Float32 → Bool)
    (image' : Image) : Prop where
  sameSize : SameSize image image'
  /-- The colour is laid once over what was there before. -/
  painted : ∀ x y, Inks region colour distance? covers x y →
    image'.get x y = blend (image.get x y) colour 1
  /-- All other pixels are left alone. -/
  kept : ∀ x y, ¬ Inks region colour distance? covers x y → image'.get x y = image.get x y

theorem PaintedOver.unique (h : PaintedOver image region colour distance? covers image')
    (h₁ : PaintedOver image region colour distance? covers image₁) : image' = image₁ := by
  have hs : SameSize image₁ image' :=
    ⟨h.sameSize.width.trans h₁.sameSize.width.symm, h.sameSize.height.trans h₁.sameSize.height.symm⟩
  refine Image.ext_get hs fun x y => ?_
  by_cases hinks : Inks region colour distance? covers x y
  · rw [h.painted x y hinks, h₁.painted x y hinks]
  · rw [h.kept x y hinks, h₁.kept x y hinks]

/-- The pixels of a region, in any order. -/
theorem paintedOver_foldl (h : region.Within image) (hperm : order.Perm region.pixels) :
    PaintedOver image region colour distance? covers
      (order.foldl (paintPixel colour distance? covers) image) := by
  have hmem : ∀ x y, (x, y) ∈ order ↔ region.Contains x y := fun x y =>
    hperm.mem_iff.trans Region.mem_pixels_iff
  have hget := @get_foldl_paintPixel image colour distance? covers order
    (hperm.nodup_iff.2 region.nodup_pixels) fun p hp => h p.1 p.2 ((hmem p.1 p.2).1 hp)
  refine ⟨.foldl (sameSize_paintPixel colour distance? covers) order image, fun x y hinks => ?_,
    fun x y hinks => ?_⟩
  · rw [hget, if_pos ⟨(hmem x y).2 hinks.1, hinks.2.1⟩]
  · rw [hget]
    split
    · -- The pixel is gone over, and still it is not inked: nothing is seen of the colour.
      rename_i hboth
      cases htransparent : colour.isTransparent with
      | true => exact blend_of_isTransparent htransparent _
      | false => exact absurd ⟨(hmem x y).1 hboth.1, hboth.2, htransparent⟩ hinks
    · rfl

theorem paintedOver_paint (h : region.Within image) :
    PaintedOver image region colour distance? covers
      (paint image region colour distance? covers) := by
  unfold paint
  split
  · rename_i htransparent
    refine ⟨.refl image, fun x y hinks => ?_, fun x y _ => rfl⟩
    rw [hinks.2.2] at htransparent
    cases htransparent
  · exact paintedOver_foldl h (.refl _)

/-- **Painting works pixel by pixel.** The pixels of a region come row by row, each once. If all of
them lie inside the image, its size stays, a pixel of the region whose centre is at a distance that
is covered has the colour laid over it once, unless the colour is transparent, and every other pixel
stays as it is. Any other order of the same pixels gives the same image. -/
theorem paint_pointwise (image : Image) (region : Region) (colour : Colour)
    (distance? : Float32 → Float32 → Option Float32) (covers : Float32 → Bool)
    (h : region.Within image) :
    region.Enumerates region.pixels ∧
      PaintedOver image region colour distance? covers
        (paint image region colour distance? covers) ∧
      ∀ order : List (Nat × Nat), order.Perm region.pixels →
        order.foldl (paintPixel colour distance? covers) image =
          paint image region colour distance? covers := by
  refine ⟨region.enumerates_pixels, paintedOver_paint h, fun order hperm => ?_⟩
  exact (paintedOver_foldl h hperm).unique (paintedOver_paint h)

/-- A translucent colour in the two columns on the right, the first pixel of which is masked. -/
theorem paint_pointwise_translucent :
    let image := Image.ofList 3 2 [.white, .black, .clear, .black, .white, .black]
    let region : Region := ⟨1, 0, 3, 2⟩
    let ink : Colour := ⟨200, 0, 0, 128⟩
    let distance? : Float32 → Float32 → Option Float32 :=
      fun px py => if px < 2 ∧ py < 1 then none else some (px - 2)
    let covers : Float32 → Bool := fun d => d ≤ 0
    let painted := paint image region ink distance? covers
    region.Within image ∧ region.Enumerates region.pixels ∧
      painted.get 1 1 = blend .white ink 1 ∧ painted.get 0 1 = .black ∧
      painted.get 1 0 = .black ∧ painted.get 2 1 = .black ∧
      region.pixels.reverse.foldl (paintPixel ink distance? covers) image = painted := by
  intro image region ink distance? covers painted
  have hwithin : region.Within image := fun x y hr => ⟨hr.1.2, hr.2.2⟩
  have hmasked : ¬ Covered distance? covers 1 0 := by decide +kernel
  have hbeyond : ¬ Covered distance? covers 2 1 := by decide +kernel
  have hcovered : Covered distance? covers 1 1 := by decide +kernel
  obtain ⟨hpixels, hpainted, horder⟩ := paint_pointwise image region ink distance? covers hwithin
  refine ⟨hwithin, hpixels, ?_, ?_, ?_, ?_, horder _ (List.reverse_perm region.pixels)⟩
  · exact hpainted.painted 1 1 ⟨by decide, hcovered, rfl⟩
  · exact hpainted.kept 0 1 fun hinks => absurd hinks.1 (by decide)
  · exact hpainted.kept 1 0 fun hinks => hmasked hinks.2.1
  · exact hpainted.kept 2 1 fun hinks => hbeyond hinks.2.1

end Paint

end CanvasScript.Picture
