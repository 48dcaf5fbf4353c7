import CanvasScript.Proofs.Command.Sound

/-!
# What a declaration promises

The values of a call are of the shapes that the parameters declare, so that whoever asks for one by
its name and type has an answer. A call is refused for its arguments alone: a default is never the
reason.

* `Value.OfKind`, `Parameter.Admits`: the values of a type, and those of a parameter.
* `Parameter.Promises`: the value that a parameter has for the argument in its place.
* `Arguments.access`: what the accessor for the type of a parameter finds.
* `Definition.Fulfils`: the arguments of a call are what its definition promises.
* `Definition.Amiss`: raw arguments that a definition has to refuse.

Results:
* `Definition.validate_keeps_promises`: accepted arguments fulfil the definition, and arguments are
  refused exactly if there is something amiss with them.
-/

namespace CanvasScript.Command

variable {α : Type}

/-! ## Types -/

/-- A value of a type. -/
inductive Value.OfKind : Kind → Value → Prop
  | integer {n : Int} (h : n.natAbs < integerLimit) : OfKind .integer (.integer n)
  | float (x : Float) : OfKind .float (.float x)
  | boolean (b : Bool) : OfKind .boolean (.boolean b)
  | colour (c : Colour) : OfKind .colour (.colour c)
  | string (s : String) : OfKind .string (.string s)
  | script (s : String) : OfKind .script (.string s)
  | unknown (s : String) : OfKind .unknown (.string s)

theorem Kind.ofKind_of_value? {k : Kind} {text : String} {v : Value}
    (h : k.value? text = some v) : v.OfKind k := by
  cases k with
  | integer =>
    obtain ⟨x, -, h⟩ := Option.bind_eq_some_iff.1 h
    dsimp only at h
    split at h
    · cases h
      exact .integer ‹_›
    · cases h
  | float =>
    obtain ⟨x, -, rfl⟩ := Option.map_eq_some_iff.1 h
    exact .float x
  | boolean =>
    simp only [Kind.value?] at h
    split at h
    · cases h
      exact .boolean true
    · split at h
      · cases h
        exact .boolean false
      · cases h
  | colour =>
    obtain ⟨c, -, rfl⟩ := Option.map_eq_some_iff.1 h
    exact .colour c
  | string =>
    cases h
    exact .string text
  | script =>
    cases h
    exact .script text
  | unknown =>
    cases h
    exact .unknown text

/-- The value of a text, if it is a text itself, is this text. -/
theorem Kind.eq_of_value?_eq_string {k : Kind} {text s : String}
    (h : k.value? text = some (.string s)) : s = text := by
  cases k with
  | string | script | unknown =>
    cases h
    rfl
  | integer | float | boolean | colour => cases Kind.ofKind_of_value? h

namespace Parameter

variable {p : Parameter} {v : Value}

/-- A value of a parameter: it is of the declared type, and it is among the listed values if it is
a text. -/
structure Admits (p : Parameter) (v : Value) : Prop where
  kind : v.OfKind p.kind
  listed : ∀ s, v = .string s → ∀ allowed, p.allowed? = some allowed → s ∈ allowed

theorem take?_eq_some_iff {text : String} :
    p.take? text = some v ↔
      (∀ allowed, p.allowed? = some allowed → text ∈ allowed) ∧ p.kind.value? text = some v := by
  unfold take?
  cases p.allowed? with
  | none => simp
  | some allowed => simp

theorem admits_of_take? {text : String} (h : p.take? text = some v) : p.Admits v := by
  obtain ⟨hlisted, hvalue⟩ := take?_eq_some_iff.1 h
  refine ⟨Kind.ofKind_of_value? hvalue, ?_⟩
  rintro s rfl allowed hallowed
  rw [Kind.eq_of_value?_eq_string hvalue]
  exact hlisted allowed hallowed

/-- What a parameter promises of its value, given the argument in its place. -/
inductive Promises (p : Parameter) (argument? : Option String) : Value → Prop
  /-- A list of values, with one at least if the parameter is required. -/
  | items (hp : p.variadic = true) {items : List Value} (hitems : ∀ v ∈ items, p.Admits v)
      (hr : p.required = true → items ≠ []) : Promises p argument? (.list items)
  /-- A value. -/
  | value (hp : p.variadic = false) {v : Value} (hv : p.Admits v) : Promises p argument? v
  /-- Nothing, which takes an optional parameter, no default, and no argument but a blank one. -/
  | absent (hp : p.variadic = false) (hr : p.required = false) (hd : p.default? = none)
      (hblank : ∀ r, argument? = some r → Text.allBlank r = true) : Promises p argument? .absent

theorem given?_eq_none_iff {argument? : Option String} :
    p.given? argument? = none ↔
      p.default? = none ∧ ∀ r, argument? = some r → Text.allBlank r = true := by
  unfold given?
  cases argument? with
  | none => simp
  | some r => cases hr : Text.allBlank r <;> simp [hr]

/-- What a parameter makes of the arguments is what it promises. -/
theorem Makes.promises {raw : List String} (h : p.Makes (p.readings raw) v) :
    p.Promises raw.head? v := by
  cases h with
  | @items hp items hitems hneeded =>
    refine .items hp (fun v hv => ?_) fun hr hnil => ?_
    · have htaken : some v ∈ (p.readings raw).map p.take? := by
        rw [hitems]
        exact List.mem_map_of_mem hv
      obtain ⟨text, -, htake⟩ := List.mem_map.1 htaken
      exact admits_of_take? htake
    · rw [hneeded hnil] at hr
      cases hr
  | text hp ht htake => exact .value hp (admits_of_take? htake)
  | absent hp ht hr =>
    rw [← given?_head? hp, given?_eq_none_iff] at ht
    exact .absent hp hr ht.1 ht.2

end Parameter

/-! ## Accessors -/

/-- What the accessor for the type of a parameter finds under its name. -/
def Arguments.access (a : Arguments) (p : Parameter) : Except Fault Value :=
  if p.variadic then .ok (.list (a.list p.name))
  else match p.kind with
    | .integer => (a.integer p.name).map .integer
    | .float => (a.float p.name).map .float
    | .boolean => (a.boolean p.name).map .boolean
    | .colour => (a.colour p.name).map .colour
    | .string | .script | .unknown => (a.string p.name).map .string

/-- The accessor finds a value that is of the declared type. -/
theorem Parameter.Promises.access {p : Parameter} {argument? : Option String} {v : Value}
    {a : Arguments} (h : p.Promises argument? v) (hv : a.get? p.name = some v)
    (hneeded : p.required = true ∨ p.default?.isSome = true) : a.access p = .ok v := by
  unfold Arguments.access
  cases h with
  | items hp =>
    rw [if_pos hp, Arguments.list, hv]
  | value hp hadmits =>
    rw [if_neg (by simp [hp])]
    have hkind := hadmits.kind
    cases hk : p.kind <;> rw [hk] at hkind <;> cases hkind <;>
      simp [Arguments.integer, Arguments.float, Arguments.boolean, Arguments.colour,
        Arguments.string, Arguments.string?, Value.string?, hv, Except.map]
  | absent hp hr hd =>
    rw [hr, hd] at hneeded
    simp at hneeded

/-! ## Calls -/

namespace Definition

variable {d : Definition α} {raw : List String} {a : Arguments}

/-- The arguments of a call are what the definition promises. -/
structure Fulfils (d : Definition α) (raw : List String) (a : Arguments) : Prop where
  command : a.command = d.name
  /-- There is one value for each parameter, in their order. -/
  names : a.values.map Prod.fst = d.parameters.map Parameter.name
  /-- Each of them is what its parameter promises. -/
  shapes : ∀ (i : Nat) (p : Parameter), d.parameters[i]? = some p →
    ∃ v, a.values[i]? = some (p.name, v) ∧ p.Promises raw[i]? v
  /-- The accessor for a parameter that is required or has a default does not fail. -/
  accessors : ∀ (i : Nat) (p : Parameter), d.parameters[i]? = some p →
    p.required = true ∨ p.default?.isSome = true →
    ∃ v, a.values[i]? = some (p.name, v) ∧ a.access p = .ok v

end Definition

/-- The parameter refuses an argument: it is not among the listed values, or not of the type. -/
def Parameter.Refuses (p : Parameter) (r : String) : Prop :=
  (∃ allowed, p.allowed? = some allowed ∧ p.reading r ∉ allowed) ∨
    p.kind.value? (p.reading r) = none

theorem Parameter.take?_eq_none_iff {p : Parameter} {r : String} :
    p.take? (p.reading r) = none ↔ p.Refuses r := by
  unfold take? Refuses
  cases p.allowed? with
  | none => simp
  | some allowed => simp [Classical.or_iff_not_imp_left]

namespace Definition

variable {d : Definition α} {raw : List String} {a : Arguments}

/-- Something is amiss with raw arguments. -/
inductive Amiss (d : Definition α) (raw : List String) : Prop
  /-- There is nothing but blanks for a required parameter. -/
  | missing {i : Nat} {p : Parameter} (hp : d.parameters[i]? = some p) (hr : p.required = true)
      (hblank : ∀ r ∈ p.taken (raw.drop i), Text.allBlank r = true)
  /-- An argument is refused by the parameter in its place. -/
  | refused {j : Nat} {r : String} {p : Parameter} (hr : raw[j]? = some r)
      (hblank : Text.allBlank r = false) (hp : d.parameterAt? j = some p) (h : p.Refuses r)
  /-- There is no parameter in the place of an argument. -/
  | surplus {j : Nat} {r : String} (hr : raw[j]? = some r) (hblank : Text.allBlank r = false)
      (hp : d.parameterAt? j = none)

theorem fulfils_of_validate (hs : Sound d.parameters) (h : d.validate raw = .ok a) :
    d.Fulfils raw a := by
  have hshapes : ∀ (i : Nat) (p : Parameter), d.parameters[i]? = some p →
      ∃ v, a.values[i]? = some (p.name, v) ∧ p.Promises raw[i]? v := by
    intro i p hp
    obtain ⟨v, hv, hmakes⟩ := getElem?_of_validate h hp
    exact ⟨v, hv, List.head?_drop ▸ hmakes.promises⟩
  refine ⟨command_of_validate h, names_of_validate h, hshapes, fun i p hp hneeded => ?_⟩
  obtain ⟨v, hv, hpromises⟩ := hshapes i p hp
  have hget := hs.get?_of_mem (names_of_validate h) (List.mem_of_getElem? hv)
  exact ⟨v, hv, hpromises.access hget hneeded⟩

/-- Arguments are accepted exactly if nothing is amiss with them. -/
theorem exists_validate_iff_not_amiss (hs : Sound d.parameters) :
    (∃ a, d.validate raw = .ok a) ↔ ¬ d.Amiss raw := by
  rw [exists_validate_iff]
  constructor
  · rintro ⟨hmakes, hsurplus⟩ hamiss
    cases hamiss with
    | @missing i p hp hr hblank =>
      obtain ⟨-, hneeded⟩ := (hs.exists_makes_iff (List.mem_of_getElem? hp)).1 (hmakes i p hp)
      obtain ⟨text, htext⟩ := List.exists_mem_of_ne_nil _ (hneeded hr)
      obtain ⟨r, htaken, hfull, -⟩ := Parameter.mem_readings_iff.1 htext
      rw [hblank r htaken] at hfull
      cases hfull
    | @refused j r p hr hblank hp hrefuses =>
      obtain ⟨i, hpi, htaken⟩ := hs.exists_taken_iff.2 ⟨j, hr, hp⟩
      obtain ⟨htakes, -⟩ := (hs.exists_makes_iff (List.mem_of_getElem? hpi)).1 (hmakes i p hpi)
      obtain ⟨v, hv⟩ := htakes _ (Parameter.mem_readings_iff.2 ⟨r, htaken, hblank, rfl⟩)
      rw [Parameter.take?_eq_none_iff.2 hrefuses] at hv
      cases hv
    | @surplus j r hr hblank hp =>
      rw [surplus?_eq_none_iff_parameterAt?.1 hsurplus j r hr hp] at hblank
      cases hblank
  · intro h
    refine ⟨fun i p hp => (hs.exists_makes_iff (List.mem_of_getElem? hp)).2 ⟨?_, ?_⟩, ?_⟩
    · intro text htext
      obtain ⟨r, htaken, hblank, rfl⟩ := Parameter.mem_readings_iff.1 htext
      obtain ⟨j, hr, hpj⟩ := hs.exists_taken_iff.1 ⟨i, hp, htaken⟩
      cases htake : p.take? (p.reading r) with
      | some v => exact ⟨v, rfl⟩
      | none => exact absurd (.refused hr hblank hpj (Parameter.take?_eq_none_iff.1 htake)) h
    · intro hr hnil
      refine h (.missing hp hr fun r htaken => by_contra fun hblank => ?_)
      have hread : p.reading r ∈ p.readings (raw.drop i) :=
        Parameter.mem_readings_iff.2 ⟨r, htaken, Bool.eq_false_iff.2 hblank, rfl⟩
      rw [hnil] at hread
      cases hread
    · refine surplus?_eq_none_iff_parameterAt?.2 fun j r hr hp => by_contra fun hblank => ?_
      exact h (.surplus hr (Bool.eq_false_iff.2 hblank) hp)

/-- Accepted arguments are what the definition promises, and arguments are refused exactly if there
is something amiss with them. -/
theorem validate_keeps_promises (hc : d.check = .ok ()) (raw : List String) :
    (∀ a, d.validate raw = .ok a → d.Fulfils raw a) ∧
      ((∃ fault, d.validate raw = .error fault) ↔ d.Amiss raw) := by
  have hs := sound_of_check hc
  refine ⟨fun a => fulfils_of_validate hs, ?_⟩
  rw [← not_iff_not, ← exists_validate_iff_not_amiss hs]
  cases d.validate raw <;> simp

/-- A definition with a listed value, a default, blanks that are kept, and a list. -/
def swatch : Definition Unit where
  name := "$swatch"
  action := ()
  parameters := [
    { name := "Mode", kind := .string, required := true, allowed? := some ["fill", "line"] },
    { name := "Width", kind := .integer, default? := some "12" },
    { name := "Label", kind := .unknown, verbatim := true },
    { name := "Colors", kind := .colour, variadic := true }]

theorem swatch_keeps_promises :
    (∃ a, swatch.validate ["line", " ", "", "#000", " "] = .ok a ∧
      swatch.Fulfils ["line", " ", "", "#000", " "] a) ∧
      swatch.Amiss ["both", "1"] := by
  have hc : swatch.check = .ok () := by rfl
  refine ⟨?_, (validate_keeps_promises hc ["both", "1"]).2.1 ⟨_, rfl⟩⟩
  exact ⟨_, rfl, (validate_keeps_promises hc _).1 _ rfl⟩

end Definition

end CanvasScript.Command
