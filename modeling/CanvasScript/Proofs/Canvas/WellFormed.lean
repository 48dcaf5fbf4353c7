import CanvasScript.Canvas.Basic
import CanvasScript.Proofs.Data.KeyMap
import CanvasScript.Proofs.Fault

/-!
# Well-formed canvases

What those who paint a canvas rely on: sizes are within their limits, numbers are finite, parts are
kept under their own names, and the status says how far the canvas has come.

* `Shape.WellFormed`, `Layer.WellFormed`, `Outline.WellFormed`, `Font.WellFormed`: the limits of the
  parts of a canvas.
* `Canvas.WellFormed`: the limits of the canvas itself, and what its status says.

Results:
* `Shape.check_eq_ok_iff`, `Outline.make_eq_ok_iff`, `Font.make_eq_ok_iff`: parts can be made
  exactly if they are well formed.
* `Layer.wellFormed_of_make`, `wellFormed_of_make`: layers and canvases are made well formed.
* `WellFormed.addLayer`, `WellFormed.createOutline`, `WellFormed.loadFont`,
  `WellFormed.markRendered`: the changes to a canvas keep it well formed.
-/

namespace CanvasScript.Canvas

/-! ## Limits -/

/-- A line is not wider than the largest canvas. -/
structure Paint.WellFormed (p : Paint) : Prop where
  finite : p.stroke.isFinite = true
  nonneg : 0 ≤ p.stroke
  limit : p.stroke ≤ 16384

/-- A box is not larger than the largest canvas. -/
structure BoxSize.WellFormed (b : BoxSize) : Prop where
  width : b.width ≤ 16384
  height : b.height ≤ 16384
  radius : b.radius ≤ 16384

/-- Something in the text can be seen. -/
def NotBlank (s : String) : Prop :=
  ∃ ch ∈ s.toList, Text.isBlank ch = false

/-- The measures of a shape are within their limits, and an image has a source. -/
def Shape.WellFormed : Shape → Prop
  | .arc radius paint start stop =>
    radius ≤ 16384 ∧ paint.WellFormed ∧ start.isFinite = true ∧ stop.isFinite = true
  | .circle radius paint => radius ≤ 16384 ∧ paint.WellFormed
  | .ellipse size paint => size.WellFormed ∧ paint.WellFormed
  | .ellipseImage size source => size.WellFormed ∧ NotBlank source
  | .text _ size _ _ _ => size.isFinite = true ∧ 0 < size ∧ size ≤ 2048

/-- An outline has a name, and is at most opaque. -/
structure Outline.WellFormed (o : Outline) : Prop where
  id : o.id ≠ ""
  alpha : o.alpha ≤ 100

/-- A font has a family and a path. -/
structure Font.WellFormed (f : Font) : Prop where
  family : NotBlank f.family
  path : f.path.text ≠ ""

/-- A layer has an identifier, and its shape and its outline are within their limits. -/
structure Layer.WellFormed (l : Layer) : Prop where
  id : l.id ≠ ""
  shape : l.shape.WellFormed
  outline : ∀ o, l.outline? = some o → o.WellFormed

/-- A canvas whose size and whose parts are within their limits, and whose status says how far it
has come. -/
structure WellFormed (c : Canvas) : Prop where
  width : 1 ≤ c.width ∧ c.width ≤ 16384
  height : 1 ≤ c.height ∧ c.height ≤ 16384
  layers : ∀ l ∈ c.layers, l.WellFormed
  outlines : KeptUnder Outline.id Outline.WellFormed c.outlines
  fonts : KeptUnder Font.family Font.WellFormed c.fonts
  rendered : c.status = .rendered ↔ 0 < c.renders
  dimensioned : c.status = .dimensioned ↔
    c.layers = [] ∧ c.outlines = KeyMap.empty ∧ c.fonts = KeyMap.empty ∧ c.renders = 0

/-! ## Shapes -/

theorem allBlank_eq_false_iff {s : String} : Text.allBlank s = false ↔ NotBlank s := by
  simp [Text.allBlank, NotBlank, List.all_eq_false]

namespace Shape

theorem finite?_eq_none_iff {what : String} {x : Float32} :
    finite? what x = none ↔ x.isFinite = true := by
  unfold finite?
  by_cases hx : x.isFinite = true <;> simp [hx]

theorem extent?_eq_none_iff {what : String} {n : Nat} : extent? what n = none ↔ n ≤ 16384 := by
  unfold extent? maxDimension
  by_cases hn : n ≤ 16384 <;> simp [hn]

theorem stroke?_eq_none_iff {p : Paint} : stroke? p.stroke = none ↔ p.WellFormed := by
  have hlimits : (p.stroke.isFinite && 0 ≤ p.stroke && p.stroke ≤ Float32.ofNat maxDimension) =
      true ↔ p.WellFormed := by
    rw [Bool.and_eq_true, Bool.and_eq_true, decide_eq_true_iff, decide_eq_true_iff]
    constructor
    · rintro ⟨⟨hf, hn⟩, hl⟩
      exact ⟨hf, hn, hl⟩
    · rintro ⟨hf, hn, hl⟩
      exact ⟨⟨hf, hn⟩, hl⟩
  rw [← hlimits]
  unfold stroke?
  split <;> simp_all

theorem box?_eq_none_iff {b : BoxSize} : box? b = none ↔ b.WellFormed := by
  unfold box?
  rw [Option.or_eq_none_iff, Option.or_eq_none_iff, extent?_eq_none_iff, extent?_eq_none_iff,
    extent?_eq_none_iff]
  constructor
  · rintro ⟨⟨hw, hh⟩, hr⟩
    exact ⟨hw, hh, hr⟩
  · rintro ⟨hw, hh, hr⟩
    exact ⟨⟨hw, hh⟩, hr⟩

/-- Nothing is wrong with a shape exactly if it is well formed. -/
theorem complaint?_eq_none_iff (s : Shape) : s.complaint? = none ↔ s.WellFormed := by
  cases s with
  | arc radius paint start stop =>
    simp only [complaint?, Option.or_eq_none_iff, finite?_eq_none_iff, extent?_eq_none_iff,
      stroke?_eq_none_iff, WellFormed]
    constructor
    · rintro ⟨⟨⟨hstart, hstop⟩, hradius⟩, hpaint⟩
      exact ⟨hradius, hpaint, hstart, hstop⟩
    · rintro ⟨hradius, hpaint, hstart, hstop⟩
      exact ⟨⟨⟨hstart, hstop⟩, hradius⟩, hpaint⟩
  | circle radius paint =>
    simp only [complaint?, Option.or_eq_none_iff, extent?_eq_none_iff, stroke?_eq_none_iff,
      WellFormed]
  | ellipse size paint =>
    simp only [complaint?, Option.or_eq_none_iff, box?_eq_none_iff, stroke?_eq_none_iff, WellFormed]
  | ellipseImage size source =>
    simp only [complaint?, Option.or_eq_none_iff, box?_eq_none_iff, WellFormed,
      ← allBlank_eq_false_iff]
    refine and_congr_right fun _ => ?_
    by_cases hblank : Text.allBlank source = true <;> simp [hblank]
  | text font size colour text align =>
    have hlimits : (size.isFinite && 0 < size && size ≤ Float32.ofNat maxFontSize) = true ↔
        size.isFinite = true ∧ 0 < size ∧ size ≤ 2048 := by
      rw [Bool.and_eq_true, Bool.and_eq_true, decide_eq_true_iff, decide_eq_true_iff, and_assoc]
      rfl
    rw [WellFormed, ← hlimits, complaint?]
    split <;> simp_all

/-- A shape can be painted exactly if it is well formed. -/
theorem check_eq_ok_iff (s : Shape) : s.check = .ok () ↔ s.WellFormed := by
  rw [← complaint?_eq_none_iff]
  unfold check
  cases s.complaint? with
  | some complaint => exact ⟨nofun, nofun⟩
  | none => exact ⟨fun _ => rfl, fun _ => rfl⟩

end Shape

/-! ## Outlines, fonts and layers -/

theorem Outline.make_eq_ok_iff {o o' : Outline} : make o = .ok o' ↔ o' = o ∧ o.WellFormed := by
  unfold make
  constructor
  · intro h
    split at h
    · cases h
    · rename_i hid
      split at h
      · cases h
      · rename_i halpha
        cases h
        exact ⟨rfl, mt String.isEmpty_iff.2 hid, Nat.le_of_not_lt halpha⟩
  · rintro ⟨rfl, hid, halpha⟩
    rw [if_neg (mt String.isEmpty_iff.1 hid), if_neg (Nat.not_lt_of_le halpha)]

theorem Font.make_eq_ok_iff {f f' : Font} : make f = .ok f' ↔ f' = f ∧ f.WellFormed := by
  unfold make
  constructor
  · intro h
    split at h
    · cases h
    · rename_i hfamily
      split at h
      · cases h
      · rename_i hpath
        cases h
        exact ⟨rfl, allBlank_eq_false_iff.1 (Bool.eq_false_iff.2 hfamily),
          mt String.isEmpty_iff.2 hpath⟩
  · rintro ⟨rfl, hfamily, hpath⟩
    rw [if_neg (Bool.eq_false_iff.1 (allBlank_eq_false_iff.2 hfamily)),
      if_neg (mt String.isEmpty_iff.1 hpath)]

/-- A generated identifier has a hyphen in it. -/
theorem next_ne_empty (ids : IdSupply) (length : Nat) : (ids.next length).1 ≠ "" := by
  simp [IdSupply.next]

theorem identify_ne_empty (id? : Option String) (ids : IdSupply) :
    (Layer.identify id? ids).1 ≠ "" := by
  unfold Layer.identify
  cases id? with
  | none => exact next_ne_empty ids _
  | some id =>
    dsimp only
    split
    · exact next_ne_empty ids _
    · rename_i hid
      exact mt String.isEmpty_iff.2 hid

/-- A layer is made well formed, if its outline is. -/
theorem Layer.wellFormed_of_make {id? : Option String} {x y : Int} {shape : Shape}
    {outline? : Option Outline} {ids ids' : IdSupply} {l : Layer}
    (h : make id? x y shape outline? ids = .ok (l, ids'))
    (ho : ∀ o, outline? = some o → o.WellFormed) : l.WellFormed := by
  obtain ⟨u, hcheck, h⟩ := of_bind_ok h
  cases h
  exact ⟨identify_ne_empty id? ids, (Shape.check_eq_ok_iff shape).1 hcheck, ho⟩

/-! ## Canvases -/

/-- A canvas with nothing on it. -/
theorem wellFormed_blank {width height : Nat} (hw : 1 ≤ width ∧ width ≤ 16384)
    (hh : 1 ≤ height ∧ height ≤ 16384) (id : String) :
    WellFormed { id, width, height } where
  width := hw
  height := hh
  layers _ hl := absurd hl List.not_mem_nil
  outlines := keptUnder_empty
  fonts := keptUnder_empty
  rendered := ⟨nofun, nofun⟩
  dimensioned := ⟨fun _ => ⟨rfl, rfl, rfl, rfl⟩, fun _ => rfl⟩

/-- A canvas is made well formed. -/
theorem wellFormed_of_make {width height : Nat} {ids ids' : IdSupply} {c : Canvas}
    (h : make width height ids = .ok (c, ids')) : c.WellFormed := by
  have hdimension : ∀ {what n u}, checkDimension what n = .ok u → 1 ≤ n ∧ n ≤ 16384 := by
    intro what n u hn
    unfold checkDimension at hn
    split at hn
    · assumption
    · cases hn
  obtain ⟨u, hw, h⟩ := of_bind_ok h
  obtain ⟨u, hh, h⟩ := of_bind_ok h
  cases h
  exact wellFormed_blank (hdimension hw) (hdimension hh) _

/-- The status of a canvas to which something was added. -/
def Status.touched : Status → Status
  | dimensioned => populated
  | s => s

theorem touch_eq (c : Canvas) : c.touch = { c with status := c.status.touched } := by
  obtain ⟨id, width, height, layers, outlines, fonts, status, renders⟩ := c
  cases status <;> rfl

theorem touched_eq_rendered_iff {s : Status} : s.touched = .rendered ↔ s = .rendered := by
  cases s <;> decide

theorem touched_ne_dimensioned (s : Status) : s.touched ≠ .dimensioned := by
  cases s <;> decide

namespace WellFormed

variable {c : Canvas}

/-- Something was added, so that the canvas is not empty. -/
theorem touch (h : c.WellFormed) {layers : List Layer} {outlines : KeyMap String Outline}
    {fonts : KeyMap String Font} (hl : ∀ l ∈ layers, l.WellFormed)
    (ho : KeptUnder Outline.id Outline.WellFormed outlines)
    (hf : KeptUnder Font.family Font.WellFormed fonts)
    (hne : ¬(layers = [] ∧ outlines = KeyMap.empty ∧ fonts = KeyMap.empty)) :
    ({ c with layers, outlines, fonts } : Canvas).touch.WellFormed := by
  rw [touch_eq]
  refine ⟨h.width, h.height, hl, ho, hf, touched_eq_rendered_iff.trans h.rendered, ?_⟩
  constructor
  · intro hstatus
    exact absurd hstatus (touched_ne_dimensioned _)
  · rintro ⟨hlayers, houtlines, hfonts, -⟩
    exact absurd ⟨hlayers, houtlines, hfonts⟩ hne

theorem addLayer (h : c.WellFormed) {l : Layer} (hl : l.WellFormed) :
    (c.addLayer l).WellFormed := by
  refine h.touch (fun l' hmem => ?_) h.outlines h.fonts (by simp)
  rcases List.mem_append.1 hmem with hmem | hmem
  · exact h.layers l' hmem
  · rw [List.mem_singleton.1 hmem]
    exact hl

theorem createOutline (h : c.WellFormed) {o : Outline} (ho : o.WellFormed) :
    (c.createOutline o).WellFormed := by
  refine h.touch h.layers (h.outlines.insert ho) h.fonts ?_
  rintro ⟨-, hempty, -⟩
  exact KeyMap.insert_ne_empty _ _ _ hempty

theorem loadFont (h : c.WellFormed) {f : Font} (hf : f.WellFormed) :
    (c.loadFont f).WellFormed := by
  refine h.touch h.layers h.outlines (h.fonts.insert hf) ?_
  rintro ⟨-, -, hempty⟩
  exact KeyMap.insert_ne_empty _ _ _ hempty

theorem markRendered (h : c.WellFormed) : c.markRendered.WellFormed where
  width := h.width
  height := h.height
  layers := h.layers
  outlines := h.outlines
  fonts := h.fonts
  rendered := ⟨fun _ => Nat.succ_pos _, fun _ => rfl⟩
  dimensioned := ⟨nofun, nofun⟩

end WellFormed

end CanvasScript.Canvas
