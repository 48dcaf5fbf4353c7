import CanvasScript.Proofs.Canvas.WellFormed
import CanvasScript.Proofs.Command.Named
import CanvasScript.Proofs.Standard.Faults

/-!
# What the arguments of a canvas command describe

A command that adds to a canvas takes what it adds from its arguments, value by value.

* `Action.reads`, `Action.words`, `Action.choices`: the values that a command asks for.
* `Supplied`: all of them are there.
* `Paints`, `Measures`, `Depicts`: a paint, the measures of a box, and a shape have these values.
* `Action.shape?`: how a layer command finds its shape.
* `Draws`, `Loads`: an outline and a font have these values.

Results:
* `supplied_of_validate`: validated arguments supply all that is asked for.
* `shape_eq_ok_iff`, `outline_eq_ok_iff`, `font_eq_ok_iff`: a command finds the shape, the outline
  or the font that its arguments describe.
-/

namespace CanvasScript.Standard

open Canvas Command

variable {a : Arguments} {name : String}

/-! ## Values that are asked for -/

/-- The commands that add to a canvas. -/
def additions : List (Definition Action) :=
  layers ++ styles

namespace Action

/-- The types of the values that a command asks for. -/
def reads : Action → List (String × Kind)
  | addArc =>
    [("X", .integer), ("Y", .integer), ("Radius", .integer), ("Color", .colour),
      ("Filled", .boolean), ("Stroke", .float), ("Start Angle", .float), ("End Angle", .float)]
  | addCircle =>
    [("X", .integer), ("Y", .integer), ("Radius", .integer), ("Color", .colour),
      ("Filled", .boolean), ("Stroke", .float)]
  | addEllipse =>
    [("X", .integer), ("Y", .integer), ("Width", .integer), ("Height", .integer),
      ("Radius", .integer), ("Color", .colour), ("Filled", .boolean), ("Stroke", .float)]
  | addEllipseImage =>
    [("X", .integer), ("Y", .integer), ("Width", .integer), ("Height", .integer),
      ("Radius", .integer)]
  | addText =>
    [("X", .integer), ("Y", .integer), ("Font Name", .string), ("Font Size", .float),
      ("Color", .colour), ("Text", .string)]
  | createOutline => [("Color", .colour), ("Alpha", .integer), ("Stroke", .integer)]
  | _ => []

/-- The texts that a command asks for and that are not blank. -/
def words : Action → List String
  | addEllipseImage => ["URL"]
  | createOutline => ["ID"]
  | loadFont => ["Family", "Path"]
  | _ => []

/-- The words that a command asks for, and what they are chosen from. -/
def choices : Action → List (String × List String)
  | addText => [("Align", TextAlign.all.map TextAlign.name)]
  | createOutline => [("Type", OutlineKind.all.map OutlineKind.name)]
  | loadFont => [("Weight", FontWeight.all.map FontWeight.name)]
  | _ => []

end Action

/-- All that a command asks for is there. -/
structure Supplied (action : Action) (a : Arguments) : Prop where
  reads : ∀ e ∈ action.reads, ∃ v, a.get? e.1 = some v ∧ v.OfKind e.2
  words : ∀ name ∈ action.words, ∃ s, a.get? name = some (.string s) ∧ NotBlank s
  choices : ∀ e ∈ action.choices, ∃ s ∈ e.2, a.get? e.1 = some (.string s)

variable {d : Definition Action} {raw : List String}

theorem sound_additions (hd : d ∈ additions) : Sound d.parameters := by
  have hfault : ∀ d ∈ additions, d.fault?.isNone = true := by decide +kernel
  exact Definition.sound_of_fault? (Option.isNone_iff_eq_none.1 (hfault d hd))

theorem supplied_of_validate (hd : d ∈ additions) (hv : d.validate raw = .ok a) :
    Supplied d.action a := by
  have hs := sound_additions hd
  have hreads : ∀ d ∈ additions, ∀ e ∈ d.action.reads, d.Declares e.1 e.2 := by decide +kernel
  have hwords : ∀ d ∈ additions, ∀ name ∈ d.action.words,
      d.Declares name .string ∧ d.Hands name false := by
    decide +kernel
  have hchoices : ∀ d ∈ additions, ∀ e ∈ d.action.choices, d.Offers e.1 e.2 := by decide +kernel
  refine ⟨fun e he => ?_, fun name hname => ?_, fun e he => ?_⟩
  · exact Definition.exists_ofKind hs (hreads d hd e he) hv
  · obtain ⟨hdeclares, hhands⟩ := hwords d hd name hname
    obtain ⟨s, hget, hblank⟩ := Definition.exists_string hs hdeclares hhands hv
    exact ⟨s, hget, allBlank_eq_false_iff.1 hblank⟩
  · obtain ⟨s, hmem, hstring⟩ := Definition.string_of_offers (hchoices d hd e he) hv
    exact ⟨s, hmem, Arguments.string_eq_ok_iff.1 hstring⟩

namespace Supplied

variable {action : Action}

theorem float (h : Supplied action a) (name : String)
    (hname : (name, Kind.float) ∈ action.reads) :
    ∃ x, a.get? name = some (.float x) := by
  obtain ⟨v, hget, hkind⟩ := h.reads _ hname
  cases hkind with
  | float x => exact ⟨x, hget⟩

theorem boolean (h : Supplied action a) (name : String)
    (hname : (name, Kind.boolean) ∈ action.reads) :
    ∃ b, a.get? name = some (.boolean b) := by
  obtain ⟨v, hget, hkind⟩ := h.reads _ hname
  cases hkind with
  | boolean b => exact ⟨b, hget⟩

theorem colour (h : Supplied action a) (name : String)
    (hname : (name, Kind.colour) ∈ action.reads) :
    ∃ c, a.get? name = some (.colour c) := by
  obtain ⟨v, hget, hkind⟩ := h.reads _ hname
  cases hkind with
  | colour c => exact ⟨c, hget⟩

theorem string (h : Supplied action a) (name : String)
    (hname : (name, Kind.string) ∈ action.reads) :
    ∃ s, a.get? name = some (.string s) := by
  obtain ⟨v, hget, hkind⟩ := h.reads _ hname
  cases hkind with
  | string s => exact ⟨s, hget⟩

end Supplied

/-! ## Numbers -/

/-- A whole number that has to be in a range is found if it is. -/
theorem ranged_eq_ok_iff {β : Type} {P : Int → Prop} [DecidablePred P] {f : Int → β}
    {fault : Int → Fault} {y : β} :
    (a.integer name >>= fun n => if P n then .ok (f n) else .error (fault n)) = .ok y ↔
      ∃ n, a.get? name = some (.integer n) ∧ P n ∧ f n = y := by
  simp only [bind_eq_ok_iff, Arguments.integer_eq_ok_iff]
  refine exists_congr fun n => and_congr_right fun _ => ?_
  by_cases hn : P n <;> simp [hn]

theorem coordinate_eq_ok_iff {x : Int} :
    coordinate a name = .ok x ↔
      a.get? name = some (.integer x) ∧ -2147483648 ≤ x ∧ x ≤ 2147483647 := by
  refine ranged_eq_ok_iff.trans ?_
  constructor
  · rintro ⟨n, hget, hn, rfl⟩
    exact ⟨hget, by omega, by omega⟩
  · rintro ⟨hget, hlow, hhigh⟩
    exact ⟨x, hget, by omega, rfl⟩

theorem size_eq_ok_iff {k : Nat} :
    size a name = .ok k ↔ a.get? name = some (.integer k) ∧ k ≤ 4294967295 := by
  refine ranged_eq_ok_iff.trans ?_
  constructor
  · rintro ⟨n, hget, hn, rfl⟩
    rw [Int.toNat_of_nonneg hn.1]
    exact ⟨hget, by omega⟩
  · rintro ⟨hget, hhigh⟩
    exact ⟨k, hget, by omega, Int.toNat_natCast k⟩

theorem opacity_eq_ok_iff {k : Nat} :
    opacity a = .ok k ↔ a.get? "Alpha" = some (.integer k) ∧ k ≤ 100 := by
  refine ranged_eq_ok_iff.trans ?_
  constructor
  · rintro ⟨n, hget, hn, rfl⟩
    rw [Int.toNat_of_nonneg hn.1]
    exact ⟨hget, by omega⟩
  · rintro ⟨hget, hhigh⟩
    exact ⟨k, hget, by omega, Int.toNat_natCast k⟩

theorem single_eq_ok_iff (h : ∃ x, a.get? name = some (.float x)) {y : Float32} :
    single a name = .ok y ↔ ∃ x, a.get? name = some (.float x) ∧ x.toFloat32 = y := by
  unfold single
  simp only [bind_eq_ok_iff, Arguments.float_eq_ok_iff h, pure, Except.pure, Except.ok.injEq]

/-! ## Words -/

/-- A choice is made by its name, and by no other word. -/
theorem parseChoice_eq_ok_iff {β : Type} {what : String} {choices : List β} {name : β → String}
    (h : ∀ b, parseChoice what choices name (name b) = .ok b) {s : String} {b : β} :
    parseChoice what choices name s = .ok b ↔ s = name b := by
  constructor
  · intro hparse
    unfold parseChoice at hparse
    split at hparse
    · rename_i hfind
      cases hparse
      have hname := List.find?_some hfind
      exact (beq_iff_eq.1 hname).symm
    · cases hparse
  · rintro rfl
    exact h b

theorem align_eq_ok_iff {s : String} {align : TextAlign} :
    TextAlign.parse s = .ok align ↔ s = align.name :=
  parseChoice_eq_ok_iff fun align => by cases align <;> rfl

theorem kind_eq_ok_iff {s : String} {kind : OutlineKind} :
    OutlineKind.parse s = .ok kind ↔ s = kind.name :=
  parseChoice_eq_ok_iff fun kind => by cases kind <;> rfl

theorem weight_eq_ok_iff {s : String} {weight : FontWeight} :
    FontWeight.parse s = .ok weight ↔ s = weight.name :=
  parseChoice_eq_ok_iff fun weight => by cases weight <;> rfl

/-! ## Shapes -/

/-- A paint has the values of the arguments. -/
structure Paints (a : Arguments) (p : Paint) : Prop where
  colour : a.get? "Color" = some (.colour p.colour)
  filled : a.get? "Filled" = some (.boolean p.filled)
  stroke : ∃ x, a.get? "Stroke" = some (.float x) ∧ x.toFloat32 = p.stroke

/-- A box has the measures of the arguments. -/
structure Measures (a : Arguments) (b : BoxSize) : Prop where
  width : a.get? "Width" = some (.integer b.width)
  height : a.get? "Height" = some (.integer b.height)
  radius : a.get? "Radius" = some (.integer b.radius)

/-- A shape is of the kind that an action adds, and has the values of the arguments. Numbers with a
point are taken over in the precision of painting. -/
inductive Depicts (a : Arguments) : Action → Shape → Prop
  | arc {radius : Nat} {p : Paint} {start stop : Float}
      (hr : a.get? "Radius" = some (.integer radius)) (hp : Paints a p)
      (hstart : a.get? "Start Angle" = some (.float start))
      (hstop : a.get? "End Angle" = some (.float stop)) :
      Depicts a .addArc (.arc radius p start.toFloat32 stop.toFloat32)
  | circle {radius : Nat} {p : Paint} (hr : a.get? "Radius" = some (.integer radius))
      (hp : Paints a p) : Depicts a .addCircle (.circle radius p)
  | ellipse {b : BoxSize} {p : Paint} (hb : Measures a b) (hp : Paints a p) :
      Depicts a .addEllipse (.ellipse b p)
  | ellipseImage {b : BoxSize} {source : String} (hb : Measures a b)
      (hsource : a.get? "URL" = some (.string source)) :
      Depicts a .addEllipseImage (.ellipseImage b source)
  | text {font text : String} {size : Float} {colour : Colour} {align : TextAlign}
      (hfont : a.get? "Font Name" = some (.string font))
      (hsize : a.get? "Font Size" = some (.float size))
      (hcolour : a.get? "Color" = some (.colour colour))
      (htext : a.get? "Text" = some (.string text))
      (halign : a.get? "Align" = some (.string align.name)) :
      Depicts a .addText (.text font size.toFloat32 colour text align)

theorem paint_eq_ok_iff (h : ∃ x, a.get? "Stroke" = some (.float x)) {p : Paint} :
    paint a = .ok p ↔ Paints a p := by
  unfold paint
  simp only [bind_eq_ok_iff, Arguments.colour_eq_ok_iff, Arguments.boolean_eq_ok_iff,
    single_eq_ok_iff h, pure, Except.pure, Except.ok.injEq]
  constructor
  · rintro ⟨colour, hcolour, filled, hfilled, stroke, hstroke, rfl⟩
    exact ⟨hcolour, hfilled, hstroke⟩
  · rintro ⟨hcolour, hfilled, hstroke⟩
    exact ⟨_, hcolour, _, hfilled, _, hstroke, rfl⟩

theorem boxSize_eq_ok_iff {b : BoxSize} (hb : b.WellFormed) :
    boxSize a = .ok b ↔ Measures a b := by
  unfold boxSize
  simp only [bind_eq_ok_iff, size_eq_ok_iff, pure, Except.pure, Except.ok.injEq]
  constructor
  · rintro ⟨width, ⟨hwidth, -⟩, height, ⟨hheight, -⟩, radius, ⟨hradius, -⟩, rfl⟩
    exact ⟨hwidth, hheight, hradius⟩
  · rintro ⟨hwidth, hheight, hradius⟩
    have hw := hb.width
    have hh := hb.height
    have hr := hb.radius
    exact ⟨_, ⟨hwidth, by omega⟩, _, ⟨hheight, by omega⟩, _, ⟨hradius, by omega⟩, rfl⟩

section Shapes

variable {s : Shape}

theorem arc_eq_ok_iff (h : Supplied .addArc a) (hs : s.WellFormed) :
    arc a = .ok s ↔ Depicts a .addArc s := by
  unfold arc
  simp only [bind_eq_ok_iff, size_eq_ok_iff, paint_eq_ok_iff (h.float "Stroke" (by decide)),
    single_eq_ok_iff (h.float "Start Angle" (by decide)),
    single_eq_ok_iff (h.float "End Angle" (by decide)), pure, Except.pure, Except.ok.injEq]
  constructor
  · rintro ⟨radius, ⟨hradius, -⟩, p, hp, _, ⟨start, hstart, rfl⟩, _, ⟨stop, hstop, rfl⟩, rfl⟩
    exact .arc hradius hp hstart hstop
  · intro hd
    cases hd with
    | arc hradius hp hstart hstop =>
      have hlimit := hs.1
      exact ⟨_, ⟨hradius, by omega⟩, _, hp, _, ⟨_, hstart, rfl⟩, _, ⟨_, hstop, rfl⟩, rfl⟩

theorem circle_eq_ok_iff (h : Supplied .addCircle a) (hs : s.WellFormed) :
    circle a = .ok s ↔ Depicts a .addCircle s := by
  unfold circle
  simp only [bind_eq_ok_iff, size_eq_ok_iff, paint_eq_ok_iff (h.float "Stroke" (by decide)), pure,
    Except.pure, Except.ok.injEq]
  constructor
  · rintro ⟨radius, ⟨hradius, -⟩, p, hp, rfl⟩
    exact .circle hradius hp
  · intro hd
    cases hd with
    | circle hradius hp =>
      have hlimit := hs.1
      exact ⟨_, ⟨hradius, by omega⟩, _, hp, rfl⟩

theorem ellipse_eq_ok_iff (h : Supplied .addEllipse a) (hs : s.WellFormed) :
    ellipse a = .ok s ↔ Depicts a .addEllipse s := by
  unfold ellipse
  simp only [bind_eq_ok_iff, paint_eq_ok_iff (h.float "Stroke" (by decide)), pure, Except.pure,
    Except.ok.injEq]
  constructor
  · rintro ⟨b, hb, p, hp, rfl⟩
    exact .ellipse ((boxSize_eq_ok_iff hs.1).1 hb) hp
  · intro hd
    cases hd with
    | ellipse hb hp => exact ⟨_, (boxSize_eq_ok_iff hs.1).2 hb, _, hp, rfl⟩

theorem ellipseImage_eq_ok_iff (hs : s.WellFormed) :
    ellipseImage a = .ok s ↔ Depicts a .addEllipseImage s := by
  unfold ellipseImage
  simp only [bind_eq_ok_iff, Arguments.string_eq_ok_iff, pure, Except.pure, Except.ok.injEq]
  constructor
  · rintro ⟨b, hb, source, hsource, rfl⟩
    exact .ellipseImage ((boxSize_eq_ok_iff hs.1).1 hb) hsource
  · intro hd
    cases hd with
    | ellipseImage hb hsource => exact ⟨_, (boxSize_eq_ok_iff hs.1).2 hb, _, hsource, rfl⟩

theorem lettering_eq_ok_iff (h : Supplied .addText a) :
    lettering a = .ok s ↔ Depicts a .addText s := by
  unfold lettering
  simp only [bind_eq_ok_iff, Arguments.string_eq_ok_iff, Arguments.colour_eq_ok_iff,
    align_eq_ok_iff, single_eq_ok_iff (h.float "Font Size" (by decide)), pure, Except.pure,
    Except.ok.injEq]
  constructor
  · rintro ⟨font, hfont, _, ⟨size, hsize, rfl⟩, colour, hcolour, text, htext, _, halign, align, rfl,
      rfl⟩
    exact .text hfont hsize hcolour htext halign
  · intro hd
    cases hd with
    | text hfont hsize hcolour htext halign =>
      exact ⟨_, hfont, _, ⟨_, hsize, rfl⟩, _, hcolour, _, htext, _, halign, _, rfl, rfl⟩

/-- The shape that an action adds. -/
def Action.shape? : Action → Option (Arguments → Except Fault Shape)
  | addArc => some arc
  | addCircle => some circle
  | addEllipse => some ellipse
  | addEllipseImage => some ellipseImage
  | addText => some lettering
  | _ => none

theorem Depicts.isSome_shape? {action : Action} (h : Depicts a action s) :
    action.shape?.isSome = true := by
  cases h <;> rfl

/-- A command finds the shape that its arguments describe, if the shape is well formed. -/
theorem shape_eq_ok_iff {action : Action} {shape : Arguments → Except Fault Shape}
    (h : Supplied action a) (hf : action.shape? = some shape) (hs : s.WellFormed) :
    shape a = .ok s ↔ Depicts a action s := by
  cases action with
  | setVariable | getVariable | createCanvas | renderCanvas | createOutline | loadFont => cases hf
  | addArc =>
    cases hf
    exact arc_eq_ok_iff h hs
  | addCircle =>
    cases hf
    exact circle_eq_ok_iff h hs
  | addEllipse =>
    cases hf
    exact ellipse_eq_ok_iff h hs
  | addEllipseImage =>
    cases hf
    exact ellipseImage_eq_ok_iff hs
  | addText =>
    cases hf
    exact lettering_eq_ok_iff h

end Shapes

/-! ## Outlines and fonts -/

/-- An outline has the values of the arguments. -/
structure Draws (a : Arguments) (o : Outline) : Prop where
  id : a.get? "ID" = some (.string o.id)
  kind : a.get? "Type" = some (.string o.kind.name)
  colour : a.get? "Color" = some (.colour o.colour)
  alpha : a.get? "Alpha" = some (.integer o.alpha)
  stroke : a.get? "Stroke" = some (.integer o.stroke)

/-- A font has the values of the arguments. -/
structure Loads (a : Arguments) (f : Font) : Prop where
  family : a.get? "Family" = some (.string f.family)
  path : a.get? "Path" = some (.string f.path.text)
  weight : a.get? "Weight" = some (.string f.weight.name)

theorem ne_empty_of_notBlank {s : String} (h : NotBlank s) : s ≠ "" := by
  rintro rfl
  obtain ⟨ch, hmem, -⟩ := h
  simp at hmem

/-- The name of an outline has been given, so that it is not empty. -/
theorem outline_eq_ok_iff (h : Supplied .createOutline a) {o : Outline} :
    outline a = .ok o ↔ Draws a o ∧ o.alpha ≤ 100 ∧ o.stroke ≤ 4294967295 := by
  obtain ⟨id, hid, hfull⟩ := h.words "ID" (by decide)
  unfold outline
  simp only [bind_eq_ok_iff, opacity_eq_ok_iff, size_eq_ok_iff, Arguments.string_eq_ok_iff,
    kind_eq_ok_iff, Arguments.colour_eq_ok_iff, Outline.make_eq_ok_iff]
  constructor
  · rintro ⟨alpha, ⟨halpha, hpercent⟩, stroke, ⟨hstroke, hlimit⟩, id, hid, _, hkind, kind, rfl,
      colour, hcolour, rfl, -⟩
    exact ⟨⟨hid, hkind, hcolour, halpha, hstroke⟩, hpercent, hlimit⟩
  · rintro ⟨hd, hpercent, hlimit⟩
    have hne : o.id ≠ "" := by
      cases hid.symm.trans hd.id
      exact ne_empty_of_notBlank hfull
    exact ⟨_, ⟨hd.alpha, hpercent⟩, _, ⟨hd.stroke, hlimit⟩, _, hd.id, _, hd.kind, _, rfl, _,
      hd.colour, rfl, hne, hpercent⟩

/-- The family and the path of a font have been given, so that they are not empty. -/
theorem font_eq_ok_iff (h : Supplied .loadFont a) {f : Font} : font a = .ok f ↔ Loads a f := by
  obtain ⟨family, hfamily, hfull⟩ := h.words "Family" (by decide)
  obtain ⟨path, hpath, hsome⟩ := h.words "Path" (by decide)
  unfold font
  simp only [bind_eq_ok_iff, Arguments.string_eq_ok_iff, weight_eq_ok_iff, Font.make_eq_ok_iff]
  constructor
  · rintro ⟨family, hfamily, path, hpath, _, hweight, weight, rfl, rfl, -⟩
    exact ⟨hfamily, hpath, hweight⟩
  · intro hl
    have hwell : f.WellFormed := by
      cases hfamily.symm.trans hl.family
      cases hpath.symm.trans hl.path
      exact ⟨hfull, ne_empty_of_notBlank hsome⟩
    exact ⟨_, hl.family, _, hl.path, _, hl.weight, _, rfl, rfl, hwell⟩

end CanvasScript.Standard
