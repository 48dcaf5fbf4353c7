import CanvasScript.Proofs.Standard.Descriptions

/-!
# Limits of the canvas commands

A command that adds to a canvas accepts its values exactly if they are in range. What it adds has
these values and no others, and nothing is touched besides; a command that refuses its values leaves
everything as it was.

* `Limit`, `Action.limits`, `InRange`: the ranges of the values of each command.
* `Places`, `Adds`: what a command adds to a canvas, told by its arguments.
* `Exact`: what becomes of a canvas in one call.

Results:
* `inRange_iff_of_shape`: values are in range if they describe a well-formed shape and a place.
* `adds_of_change`, `exists_change`: a change is made exactly if its values are in range, and is what
  they say.
* `additions_exact`: every command that adds to a canvas is exact.
-/

namespace CanvasScript.Standard

open Canvas Command Run

/-! ## Ranges -/

/-- A range of values. -/
inductive Limit where
  /-- Whole numbers between two others. -/
  | whole (low high : Int)
  /-- Numbers with a point, compared in the precision of painting. -/
  | single (range : Float32 → Prop)

namespace Limit

/-- The value is in the range. -/
def Admits : Limit → Value → Prop
  | whole low high, .integer n => low ≤ n ∧ n ≤ high
  | single range, .float x => range x.toFloat32
  | _, _ => False

/-- Where a layer can be. -/
def place : Limit :=
  .whole (-2147483648) 2147483647

/-- How large a layer can be. -/
def extent : Limit :=
  .whole 0 16384

/-- How wide the line around a layer can be. -/
def stroke : Limit :=
  .single fun x => x.isFinite = true ∧ 0 ≤ x ∧ x ≤ 16384

/-- Where an arc can begin and end. -/
def angle : Limit :=
  .single fun x => x.isFinite = true

/-- How large a text can be. -/
def fontSize : Limit :=
  .single fun x => x.isFinite = true ∧ 0 < x ∧ x ≤ 2048

end Limit

/-- The ranges of the values that an action asks for. -/
def Action.limits : Action → List (String × Limit)
  | addArc =>
    [("X", .place), ("Y", .place), ("Radius", .extent), ("Stroke", .stroke),
      ("Start Angle", .angle), ("End Angle", .angle)]
  | addCircle => [("X", .place), ("Y", .place), ("Radius", .extent), ("Stroke", .stroke)]
  | addEllipse =>
    [("X", .place), ("Y", .place), ("Width", .extent), ("Height", .extent), ("Radius", .extent),
      ("Stroke", .stroke)]
  | addEllipseImage =>
    [("X", .place), ("Y", .place), ("Width", .extent), ("Height", .extent), ("Radius", .extent)]
  | addText => [("X", .place), ("Y", .place), ("Font Size", .fontSize)]
  | createOutline => [("Alpha", .whole 0 100), ("Stroke", .whole 0 4294967295)]
  | _ => []

variable {a : Arguments} {name : String} {action : Action}

/-- The value under a name is in a range. -/
def Meets (a : Arguments) (name : String) (limit : Limit) : Prop :=
  ∃ v, a.get? name = some v ∧ limit.Admits v

/-- All values that have a range are in it. -/
def InRange (action : Action) (a : Arguments) : Prop :=
  ∀ e ∈ action.limits, Meets a e.1 e.2

/-! ## Values in range -/

theorem meets_whole_iff {low high : Int} :
    Meets a name (.whole low high) ↔
      ∃ n, a.get? name = some (.integer n) ∧ low ≤ n ∧ n ≤ high := by
  constructor
  · rintro ⟨v, hget, hv⟩
    cases v with
    | integer n => exact ⟨n, hget, hv⟩
    | absent | float | boolean | string | colour | list => cases hv
  · rintro ⟨n, hget, hn⟩
    exact ⟨_, hget, hn⟩

theorem meets_natural_iff {high : Nat} :
    Meets a name (.whole 0 high) ↔
      ∃ k : Nat, a.get? name = some (.integer k) ∧ k ≤ high := by
  rw [meets_whole_iff]
  constructor
  · rintro ⟨n, hget, hlow, hhigh⟩
    refine ⟨n.toNat, ?_, by omega⟩
    rw [hget, Int.toNat_of_nonneg hlow]
  · rintro ⟨k, hget, hk⟩
    exact ⟨k, hget, by omega, by omega⟩

theorem meets_place_iff : Meets a name .place ↔ ∃ x, coordinate a name = .ok x := by
  simp only [Limit.place, meets_whole_iff, coordinate_eq_ok_iff]

theorem meets_extent_iff :
    Meets a name .extent ↔ ∃ k : Nat, a.get? name = some (.integer k) ∧ k ≤ 16384 :=
  meets_natural_iff

theorem meets_single_iff {range : Float32 → Prop} :
    Meets a name (.single range) ↔ ∃ x, a.get? name = some (.float x) ∧ range x.toFloat32 := by
  constructor
  · rintro ⟨v, hget, hv⟩
    cases v with
    | float x => exact ⟨x, hget, hv⟩
    | absent | integer | boolean | string | colour | list => cases hv
  · rintro ⟨x, hget, hx⟩
    exact ⟨_, hget, hx⟩

theorem exists_box_iff :
    (∃ b, Measures a b ∧ b.WellFormed) ↔
      Meets a "Width" .extent ∧ Meets a "Height" .extent ∧ Meets a "Radius" .extent := by
  simp only [meets_extent_iff]
  constructor
  · rintro ⟨b, hb, hw⟩
    exact ⟨⟨_, hb.width, hw.width⟩, ⟨_, hb.height, hw.height⟩, ⟨_, hb.radius, hw.radius⟩⟩
  · rintro ⟨⟨width, hwidth, hw⟩, ⟨height, hheight, hh⟩, ⟨radius, hradius, hr⟩⟩
    exact ⟨⟨width, height, radius⟩, ⟨hwidth, hheight, hradius⟩, ⟨hw, hh, hr⟩⟩

theorem exists_paint_iff (hcolour : ∃ c, a.get? "Color" = some (.colour c))
    (hfilled : ∃ b, a.get? "Filled" = some (.boolean b)) :
    (∃ p, Paints a p ∧ p.WellFormed) ↔ Meets a "Stroke" .stroke := by
  rw [Limit.stroke, meets_single_iff]
  constructor
  · rintro ⟨p, hp, hw⟩
    obtain ⟨x, hget, hx⟩ := hp.stroke
    refine ⟨x, hget, ?_⟩
    rw [hx]
    exact ⟨hw.finite, hw.nonneg, hw.limit⟩
  · rintro ⟨x, hget, hf, hn, hl⟩
    obtain ⟨colour, hcolour⟩ := hcolour
    obtain ⟨filled, hfilled⟩ := hfilled
    exact ⟨⟨colour, filled, x.toFloat32⟩, ⟨hcolour, hfilled, x, hget, rfl⟩, hf, hn, hl⟩

/-! ## Shapes in range -/

theorem exists_arc_iff (h : Supplied .addArc a) :
    (∃ s, Depicts a .addArc s ∧ s.WellFormed) ↔
      Meets a "Radius" .extent ∧ Meets a "Stroke" .stroke ∧ Meets a "Start Angle" .angle ∧
        Meets a "End Angle" .angle := by
  simp only [meets_extent_iff, Limit.angle, meets_single_iff,
    ← exists_paint_iff (h.colour "Color" (by decide)) (h.boolean "Filled" (by decide))]
  constructor
  · rintro ⟨s, hd, hw⟩
    cases hd with
    | arc hradius hp hstart hstop =>
      exact ⟨⟨_, hradius, hw.1⟩, ⟨_, hp, hw.2.1⟩, ⟨_, hstart, hw.2.2.1⟩, ⟨_, hstop, hw.2.2.2⟩⟩
  · rintro ⟨⟨radius, hradius, hr⟩, ⟨p, hp, hw⟩, ⟨start, hstart, hs⟩, ⟨stop, hstop, he⟩⟩
    exact ⟨_, .arc hradius hp hstart hstop, hr, hw, hs, he⟩

theorem exists_circle_iff (h : Supplied .addCircle a) :
    (∃ s, Depicts a .addCircle s ∧ s.WellFormed) ↔
      Meets a "Radius" .extent ∧ Meets a "Stroke" .stroke := by
  simp only [meets_extent_iff,
    ← exists_paint_iff (h.colour "Color" (by decide)) (h.boolean "Filled" (by decide))]
  constructor
  · rintro ⟨s, hd, hw⟩
    cases hd with
    | circle hradius hp => exact ⟨⟨_, hradius, hw.1⟩, ⟨_, hp, hw.2⟩⟩
  · rintro ⟨⟨radius, hradius, hr⟩, ⟨p, hp, hw⟩⟩
    exact ⟨_, .circle hradius hp, hr, hw⟩

theorem exists_ellipse_iff (h : Supplied .addEllipse a) :
    (∃ s, Depicts a .addEllipse s ∧ s.WellFormed) ↔
      (Meets a "Width" .extent ∧ Meets a "Height" .extent ∧ Meets a "Radius" .extent) ∧
        Meets a "Stroke" .stroke := by
  rw [← exists_box_iff,
    ← exists_paint_iff (h.colour "Color" (by decide)) (h.boolean "Filled" (by decide))]
  constructor
  · rintro ⟨s, hd, hw⟩
    cases hd with
    | ellipse hb hp => exact ⟨⟨_, hb, hw.1⟩, ⟨_, hp, hw.2⟩⟩
  · rintro ⟨⟨b, hb, hbw⟩, ⟨p, hp, hpw⟩⟩
    exact ⟨_, .ellipse hb hp, hbw, hpw⟩

theorem exists_ellipseImage_iff (h : Supplied .addEllipseImage a) :
    (∃ s, Depicts a .addEllipseImage s ∧ s.WellFormed) ↔
      Meets a "Width" .extent ∧ Meets a "Height" .extent ∧ Meets a "Radius" .extent := by
  rw [← exists_box_iff]
  constructor
  · rintro ⟨s, hd, hw⟩
    cases hd with
    | ellipseImage hb hsource => exact ⟨_, hb, hw.1⟩
  · rintro ⟨b, hb, hw⟩
    obtain ⟨source, hsource, hfull⟩ := h.words "URL" (by decide)
    exact ⟨_, .ellipseImage hb hsource, hw, hfull⟩

theorem exists_text_iff (h : Supplied .addText a) :
    (∃ s, Depicts a .addText s ∧ s.WellFormed) ↔ Meets a "Font Size" .fontSize := by
  rw [Limit.fontSize, meets_single_iff]
  constructor
  · rintro ⟨s, hd, hw⟩
    cases hd with
    | text hfont hsize hcolour htext halign => exact ⟨_, hsize, hw⟩
  · rintro ⟨size, hsize, hw⟩
    obtain ⟨font, hfont⟩ := h.string "Font Name" (by decide)
    obtain ⟨colour, hcolour⟩ := h.colour "Color" (by decide)
    obtain ⟨text, htext⟩ := h.string "Text" (by decide)
    obtain ⟨word, hword, halign⟩ := h.choices _ (List.mem_singleton.2 rfl)
    obtain ⟨align, -, rfl⟩ := List.mem_map.1 hword
    exact ⟨_, .text hfont hsize hcolour htext halign, hw⟩

/-- The values of a layer are in range if they describe a place and a well-formed shape. -/
theorem inRange_iff_of_shape {shape : Arguments → Except Fault Shape} (h : Supplied action a)
    (hf : action.shape? = some shape) :
    InRange action a ↔
      (∃ x, coordinate a "X" = .ok x) ∧ (∃ y, coordinate a "Y" = .ok y) ∧
        ∃ s, Depicts a action s ∧ s.WellFormed := by
  cases action with
  | setVariable | getVariable | createCanvas | renderCanvas | createOutline | loadFont => cases hf
  | addArc => simp [InRange, Action.limits, meets_place_iff, exists_arc_iff h]
  | addCircle => simp [InRange, Action.limits, meets_place_iff, exists_circle_iff h]
  | addEllipse => simp [InRange, Action.limits, meets_place_iff, exists_ellipse_iff h, and_assoc]
  | addEllipseImage => simp [InRange, Action.limits, meets_place_iff, exists_ellipseImage_iff h]
  | addText => simp [InRange, Action.limits, meets_place_iff, exists_text_iff h]

/-! ## What is added -/

variable {d : Definition Action} {raw : List String} {c c' : Canvas} {ids ids' : IdSupply}
  {w w' : World}

/-- A layer has the values of the arguments, and the identifier and the outline that they name. -/
structure Places (d : Definition Action) (raw : List String) (a : Arguments) (c : Canvas)
    (ids : IdSupply) (l : Layer) (ids' : IdSupply) : Prop where
  /-- An identifier is taken as it is given, with the blanks around it. -/
  given : ∀ id, d.argument? raw "ID" = some id → l.id = id ∧ ids' = ids
  /-- If none is given, one is generated. -/
  generated : d.argument? raw "ID" = none → (l.id, ids') = ids.next layerIdLength
  x : a.get? "X" = some (.integer l.x)
  y : a.get? "Y" = some (.integer l.y)
  shape : Depicts a d.action l.shape
  /-- The outline that the canvas has under the name at this time, if there are both. -/
  outline : l.outline? = ((d.argument? raw "Outline Name").map Text.trim).bind c.outline?

/-- The canvas has one layer, one outline or one font more, and the status that follows; nothing
else has changed. -/
inductive Adds (d : Definition Action) (raw : List String) (a : Arguments) (c : Canvas)
    (ids : IdSupply) : Canvas → IdSupply → Prop
  | layer {l : Layer} {ids' : IdSupply} (h : Places d raw a c ids l ids') :
      Adds d raw a c ids { c with layers := c.layers ++ [l], status := c.status.touched } ids'
  | outline (hd : d.action = .createOutline) {o : Outline} (h : Draws a o) :
      Adds d raw a c ids
        { c with outlines := c.outlines.insert o.id o, status := c.status.touched } ids
  | font (hd : d.action = .loadFont) {f : Font} (h : Loads a f) :
      Adds d raw a c ids { c with fonts := c.fonts.insert f.family f, status := c.status.touched } ids

/-- A layer of a well-formed shape is put on top, at the place that the arguments describe. -/
theorem layerChange_eq_ok_iff {shape : Arguments → Except Fault Shape} :
    layerChange shape a c ids = .ok (c', ids') ↔
      ∃ s x y, shape a = .ok s ∧ coordinate a "X" = .ok x ∧ coordinate a "Y" = .ok y ∧
        s.WellFormed ∧ ids' = (Layer.identify (a.string? "ID") ids).2 ∧
          c' = c.addLayer
            ⟨(Layer.identify (a.string? "ID") ids).1, x, y, s, namedOutline? c a⟩ := by
  unfold layerChange Layer.make
  simp only [bind_eq_ok_iff]
  constructor
  · rintro ⟨s, hs, x, hx, y, hy, ⟨l, ids₁⟩, ⟨u, hcheck, hmake⟩, h⟩
    cases hmake
    cases h
    exact ⟨s, x, y, hs, hx, hy, (Shape.check_eq_ok_iff s).1 hcheck, rfl, rfl⟩
  · rintro ⟨s, x, y, hs, hx, hy, hw, rfl, rfl⟩
    exact ⟨s, hs, x, hx, y, hy, _, ⟨(), (Shape.check_eq_ok_iff s).2 hw, rfl⟩, rfl⟩

/-- The texts that a layer command hands on, as they are given and without blanks around them. -/
theorem string?_of_layer (hd : d ∈ additions) (hv : d.validate raw = .ok a)
    (hf : d.action.shape?.isSome = true) :
    a.string? "ID" = d.argument? raw "ID" ∧
      a.string? "Outline Name" = (d.argument? raw "Outline Name").map Text.trim := by
  have hhands : ∀ d ∈ additions, d.action.shape?.isSome = true →
      d.Hands "ID" true ∧ d.Hands "Outline Name" false := by
    decide +kernel
  obtain ⟨hid, houtline⟩ := hhands d hd hf
  have hs := sound_additions hd
  exact ⟨(Definition.string?_eq hs hid hv).trans Option.map_id',
    Definition.string?_eq hs houtline hv⟩

theorem identify_argument? {id : String} (h : d.argument? raw "ID" = some id) :
    Layer.identify (some id) ids = (id, ids) := by
  have hne := ne_empty_of_notBlank (allBlank_eq_false_iff.1 (Definition.allBlank_of_argument? h))
  exact if_neg (mt String.isEmpty_iff.1 hne)

section Layers

variable {shape : Arguments → Except Fault Shape}

/-- What a layer command adds, it adds with values in range. -/
theorem adds_of_layerChange (hd : d ∈ additions) (hv : d.validate raw = .ok a)
    (hf : d.action.shape? = some shape) (h : layerChange shape a c ids = .ok (c', ids')) :
    InRange d.action a ∧ Adds d raw a c ids c' ids' := by
  have hsupplied := supplied_of_validate hd hv
  obtain ⟨s, x, y, hs, hx, hy, hw, rfl, rfl⟩ := layerChange_eq_ok_iff.1 h
  have hdepicts := (shape_eq_ok_iff hsupplied hf hw).1 hs
  obtain ⟨hid, houtline⟩ := string?_of_layer hd hv (by rw [hf]; rfl)
  refine ⟨(inRange_iff_of_shape hsupplied hf).2 ⟨⟨x, hx⟩, ⟨y, hy⟩, s, hdepicts, hw⟩, ?_⟩
  rw [Canvas.addLayer, touch_eq, hid]
  refine .layer ⟨fun id hgiven => ?_, fun hnone => ?_, (coordinate_eq_ok_iff.1 hx).1,
    (coordinate_eq_ok_iff.1 hy).1, hdepicts, ?_⟩
  · rw [hgiven, identify_argument? hgiven]
    exact ⟨rfl, rfl⟩
  · rw [hnone]
    rfl
  · rw [← houtline]
    rfl

theorem exists_layerChange (hd : d ∈ additions) (hv : d.validate raw = .ok a)
    (hf : d.action.shape? = some shape) (h : InRange d.action a) (c : Canvas) (ids : IdSupply) :
    ∃ r, layerChange shape a c ids = .ok r := by
  have hsupplied := supplied_of_validate hd hv
  obtain ⟨⟨x, hx⟩, ⟨y, hy⟩, s, hdepicts, hw⟩ := (inRange_iff_of_shape hsupplied hf).1 h
  have hs := (shape_eq_ok_iff hsupplied hf hw).2 hdepicts
  exact ⟨(_, _), layerChange_eq_ok_iff.2 ⟨s, x, y, hs, hx, hy, hw, rfl, rfl⟩⟩

end Layers

/-- The values of an outline are in range if they describe one. -/
theorem inRange_createOutline_iff (h : Supplied .createOutline a) :
    InRange .createOutline a ↔ ∃ o, outline a = .ok o := by
  have hpercent : Meets a "Alpha" (.whole 0 100) ↔ _ := @meets_natural_iff a "Alpha" 100
  have hstroke : Meets a "Stroke" (.whole 0 4294967295) ↔ _ :=
    @meets_natural_iff a "Stroke" 4294967295
  simp only [outline_eq_ok_iff h, InRange, Action.limits, List.forall_mem_cons,
    List.not_mem_nil, false_imp_iff, implies_true, and_true, hpercent, hstroke]
  constructor
  · rintro ⟨⟨alpha, halpha, ha⟩, stroke, hstroke, hs⟩
    obtain ⟨id, hid, -⟩ := h.words "ID" (by decide)
    obtain ⟨colour, hcolour⟩ := h.colour "Color" (by decide)
    obtain ⟨word, hword, hkind⟩ := h.choices _ (List.mem_singleton.2 rfl)
    obtain ⟨kind, -, rfl⟩ := List.mem_map.1 hword
    exact ⟨⟨id, kind, colour, alpha, stroke⟩, ⟨hid, hkind, hcolour, halpha, hstroke⟩, ha, hs⟩
  · rintro ⟨o, hdraws, ha, hs⟩
    exact ⟨⟨_, hdraws.alpha, ha⟩, _, hdraws.stroke, hs⟩

/-- A font can always be loaded. -/
theorem exists_font (h : Supplied .loadFont a) : ∃ f, font a = .ok f := by
  obtain ⟨family, hfamily, -⟩ := h.words "Family" (by decide)
  obtain ⟨path, hpath, -⟩ := h.words "Path" (by decide)
  obtain ⟨word, hword, hweight⟩ := h.choices _ (List.mem_singleton.2 rfl)
  obtain ⟨weight, -, rfl⟩ := List.mem_map.1 hword
  exact ⟨⟨family, ⟨path⟩, weight⟩, (font_eq_ok_iff h).2 ⟨hfamily, hpath, hweight⟩⟩

/-! ## Calls -/

theorem change?_cases {f : Arguments → Change} (hf : action.change? = some f) :
    (∃ shape, action.shape? = some shape ∧ f = layerChange shape) ∨
      (action = .createOutline ∧ f = outlineChange) ∨
        (action = .loadFont ∧ f = fontChange) := by
  cases action with
  | setVariable | getVariable | createCanvas | renderCanvas => cases hf
  | addArc | addCircle | addEllipse | addEllipseImage | addText =>
    cases hf
    exact .inl ⟨_, rfl, rfl⟩
  | createOutline =>
    cases hf
    exact .inr (.inl ⟨rfl, rfl⟩)
  | loadFont =>
    cases hf
    exact .inr (.inr ⟨rfl, rfl⟩)

/-- What a command adds, it adds with values in range. -/
theorem adds_of_change {f : Arguments → Change} (hd : d ∈ additions)
    (hv : d.validate raw = .ok a) (hf : d.action.change? = some f)
    (h : f a c ids = .ok (c', ids')) : InRange d.action a ∧ Adds d raw a c ids c' ids' := by
  have hsupplied := supplied_of_validate hd hv
  rcases change?_cases hf with ⟨shape, hshape, rfl⟩ | ⟨ha, rfl⟩ | ⟨ha, rfl⟩
  · exact adds_of_layerChange hd hv hshape h
  · rw [ha] at hsupplied
    obtain ⟨o, ho, h⟩ := of_bind_ok h
    cases h
    rw [Canvas.createOutline, touch_eq]
    refine ⟨?_, .outline ha ((outline_eq_ok_iff hsupplied).1 ho).1⟩
    rw [ha]
    exact (inRange_createOutline_iff hsupplied).2 ⟨o, ho⟩
  · rw [ha] at hsupplied
    obtain ⟨f, hfont, h⟩ := of_bind_ok h
    cases h
    rw [Canvas.loadFont, touch_eq]
    refine ⟨?_, .font ha ((font_eq_ok_iff hsupplied).1 hfont)⟩
    rw [ha]
    nofun

/-- Nothing but its values keeps a command from being carried out, whatever the canvas. -/
theorem exists_change {f : Arguments → Change} (hd : d ∈ additions)
    (hv : d.validate raw = .ok a) (hf : d.action.change? = some f) (h : InRange d.action a)
    (c : Canvas) (ids : IdSupply) : ∃ r, f a c ids = .ok r := by
  have hsupplied := supplied_of_validate hd hv
  rcases change?_cases hf with ⟨shape, hshape, rfl⟩ | ⟨ha, rfl⟩ | ⟨ha, rfl⟩
  · exact exists_layerChange hd hv hshape h c ids
  · rw [ha] at hsupplied h
    obtain ⟨o, ho⟩ := (inRange_createOutline_iff hsupplied).1 h
    exact ⟨(c.createOutline o, ids), by rw [outlineChange, ho]; rfl⟩
  · rw [ha] at hsupplied
    obtain ⟨f, hfont⟩ := exists_font hsupplied
    exact ⟨(c.loadFont f, ids), by rw [fontChange, hfont]; rfl⟩

/-- What becomes of a canvas and of the world around it in one call, which ends with `r`. -/
structure Exact (d : Definition Action) (raw : List String) (a : Arguments) (c : Canvas)
    (w : World) (r : Except Fault Unit) (c' : Canvas) (w' : World) : Prop where
  /-- The call succeeds exactly if its values are in range. -/
  accepts : r = .ok () ↔ InRange d.action a
  /-- Then it adds what the arguments describe, and draws no more than an identifier. -/
  adds : r = .ok () → ∃ ids', Adds d raw a c w.ids c' ids' ∧ w' = { w with ids := ids' }
  /-- Otherwise its arguments are at fault, and everything is as it was. -/
  refuses : ∀ fault, r = .error fault → fault.OfArgument ∧ c' = c ∧ w' = w

theorem mem_definitions_of_additions (hd : d ∈ additions) : d ∈ definitions := by
  unfold additions at hd
  simp only [definitions, canvas, List.mem_append] at hd ⊢
  tauto

/-- An edit that carries out the change of a command is exact. -/
theorem exact_of_change {f : Arguments → Change} (hd : d ∈ additions)
    (hv : d.validate raw = .ok a) (hf : d.action.change? = some f) {e : Edit Unit}
    (he : e.CarriesOut (f a)) {r : Except Fault Unit} (h : e.run (c, w) = (r, (c', w'))) :
    Exact d raw a c w r c' w' := by
  rcases he.cases h with ⟨ids, hc, rfl, rfl⟩ | ⟨fault, hc, rfl, rfl, rfl⟩
  · obtain ⟨hrange, hadds⟩ := adds_of_change hd hv hf hc
    exact ⟨⟨fun _ => hrange, fun _ => rfl⟩, fun _ => ⟨ids, hadds, rfl⟩, nofun⟩
  · refine ⟨⟨nofun, fun hrange => ?_⟩, nofun, fun fault' hfault => ?_⟩
    · obtain ⟨result, hresult⟩ := exists_change hd hv hf hrange c' w'.ids
      cases hc.symm.trans hresult
    · cases hfault
      exact ⟨faultsAre_change (mem_definitions_of_additions hd) hf hv c' w'.ids fault hc, rfl, rfl⟩

/-- Each of the commands stands for a change. -/
theorem exists_change? (hd : d ∈ additions) : ∃ f, d.action.change? = some f := by
  have hchange : ∀ d ∈ additions, d.action.change?.isSome = true := by decide
  exact Option.isSome_iff_exists.1 (hchange d hd)

/-- **Canvas commands are exact**: a command that adds to a canvas succeeds exactly if its values
are in range. It adds one layer, one outline or one font with these values and changes nothing else,
or it reports an argument and changes nothing at all. -/
theorem additions_exact (hd : d ∈ layers ++ styles) (hv : d.validate raw = .ok a) :
    ∃ run, (d.action.handler : Handler Action) = .canvas run ∧
      ∀ c w r c' w', (run a).run (c, w) = (r, (c', w')) → Exact d raw a c w r c' w' := by
  obtain ⟨f, hf⟩ := exists_change? hd
  obtain ⟨run, hrun, hcarries⟩ := exists_handler_of_change hf
  exact ⟨run, hrun, fun c w r c' w' => exact_of_change hd hv hf (hcarries a)⟩

/-- An image whose identifier has a blank in front is added, and one that is too high is refused,
whatever the canvas. -/
theorem additions_exact_badge :
    ∃ d ∈ layers ++ styles, ∃ run, (d.action.handler : Handler Action) = .canvas run ∧
      (∃ a, d.validate ["-1", "2", "30", "40", "5", "a.png", " b"] = .ok a ∧ ∀ c w, ∃ c' w',
        Exact d ["-1", "2", "30", "40", "5", "a.png", " b"] a c w (.ok ()) c' w') ∧
      ∃ a, d.validate ["-1", "2", "30", "40000", "5", "a.png"] = .ok a ∧ ∀ c w, ∃ fault c' w',
        Exact d ["-1", "2", "30", "40000", "5", "a.png"] a c w (.error fault) c' w' := by
  have hd : layers[3] ∈ layers ++ styles := List.mem_append_left _ (List.getElem_mem _)
  obtain ⟨a, hv⟩ : ∃ a, layers[3].validate ["-1", "2", "30", "40", "5", "a.png", " b"] = .ok a :=
    ⟨_, rfl⟩
  obtain ⟨a', hv'⟩ : ∃ a, layers[3].validate ["-1", "2", "30", "40000", "5", "a.png"] = .ok a :=
    ⟨_, rfl⟩
  obtain ⟨run, hrun, hexact⟩ := additions_exact hd hv
  obtain ⟨run', hrun', hexact'⟩ := additions_exact hd hv'
  cases hrun
  cases hrun'
  cases hv
  cases hv'
  refine ⟨_, hd, _, rfl, ⟨_, rfl, fun c w => ?_⟩, _, rfl, fun c w => ?_⟩
  · exact ⟨_, _, hexact c w _ _ _ rfl⟩
  · exact ⟨_, _, _, hexact' c w _ _ _ rfl⟩

end CanvasScript.Standard
