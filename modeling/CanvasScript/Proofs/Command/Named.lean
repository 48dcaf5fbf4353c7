import CanvasScript.Proofs.Command.Promises

/-!
# Arguments by name

Those who carry out a command ask for its arguments by name. What they get is told here by what the
command declares under that name, and by the raw argument in its place.

* `Definition.Declares`: there is a value of a type under a name.
* `Definition.argument?`: the raw argument in the place of the parameter with a name.
* `Definition.Hands`: the text in the place of a name is handed on, with its blanks or without.

Results:
* `Arguments.integer_eq_ok_iff` and the like: what an accessor finds is the value under a name.
* `Definition.exists_ofKind`: what is declared under a name is there.
* `Definition.string?_eq`: what is handed on under a name is the raw argument.
* `Definition.exists_string`: a text that is both is not blank.
-/

namespace CanvasScript.Command

/-! ## Accessors -/

namespace Arguments

variable {a : Arguments} {name : String}

theorem integer_eq_ok_iff {n : Int} :
    a.integer name = .ok n ↔ a.get? name = some (.integer n) := by
  unfold integer
  split
  · rename_i h
    simp [h]
  · rename_i h
    simpa using fun hn => h n hn

theorem boolean_eq_ok_iff {b : Bool} :
    a.boolean name = .ok b ↔ a.get? name = some (.boolean b) := by
  unfold boolean
  split
  · rename_i h
    simp [h]
  · rename_i h
    simpa using fun hb => h b hb

theorem colour_eq_ok_iff {c : Colour} :
    a.colour name = .ok c ↔ a.get? name = some (.colour c) := by
  unfold colour
  split
  · rename_i h
    simp [h]
  · rename_i h
    simpa using fun hc => h c hc

theorem string?_eq_some_iff {s : String} :
    a.string? name = some s ↔ a.get? name = some (.string s) := by
  unfold string?
  rw [Option.bind_eq_some_iff]
  constructor
  · rintro ⟨v, hget, hv⟩
    cases v with
    | string s' =>
      cases hv
      exact hget
    | absent | integer | float | boolean | colour | list => cases hv
  · intro hget
    exact ⟨_, hget, rfl⟩

theorem string_eq_ok_iff {s : String} :
    a.string name = .ok s ↔ a.get? name = some (.string s) := by
  rw [← string?_eq_some_iff]
  unfold string
  cases a.string? name <;> simp

/-- The accessor for numbers finds those that are declared as such. -/
theorem float_eq_ok_iff (h : ∃ x, a.get? name = some (.float x)) {x : Float} :
    a.float name = .ok x ↔ a.get? name = some (.float x) := by
  obtain ⟨y, hy⟩ := h
  rw [float, hy]
  simp

end Arguments

namespace Definition

variable {α : Type} {d : Definition α} {name : String} {kind : Kind} {verbatim : Bool}
  {raw : List String} {a : Arguments}

/-! ## Values -/

/-- A parameter with this name and type is never without a value. -/
def Declares (d : Definition α) (name : String) (kind : Kind) : Prop :=
  ∃ p ∈ d.parameters, p.name = name ∧ p.kind = kind ∧ p.variadic = false ∧
    (p.required = true ∨ p.default?.isSome = true)

instance (d : Definition α) (name : String) (kind : Kind) : Decidable (d.Declares name kind) :=
  inferInstanceAs (Decidable (∃ p ∈ d.parameters, _))

/-- What is declared under a name is there. -/
theorem exists_ofKind (hs : Sound d.parameters) (hd : d.Declares name kind)
    (hv : d.validate raw = .ok a) : ∃ v, a.get? name = some v ∧ v.OfKind kind := by
  obtain ⟨p, hmem, rfl, rfl, hsingle, hneeded⟩ := hd
  obtain ⟨i, hp⟩ := List.mem_iff_getElem?.1 hmem
  obtain ⟨v, hget, hmakes⟩ := get?_of_validate hs hv hp
  cases hmakes.promises with
  | items hvariadic => cases hsingle.symm.trans hvariadic
  | value _ hadmits => exact ⟨v, hget, hadmits.kind⟩
  | absent _ hr hdefault => simp [hr, hdefault] at hneeded

/-! ## Texts -/

/-- The raw argument in the place of the parameter with a name, unless it is blank. -/
def argument? (d : Definition α) (raw : List String) (name : String) : Option String :=
  (d.parameters.findIdx? (·.name == name)).bind fun i => raw[i]?.filter (!Text.allBlank ·)

theorem allBlank_of_argument? {r : String} (h : d.argument? raw name = some r) :
    Text.allBlank r = false := by
  obtain ⟨i, -, h⟩ := Option.bind_eq_some_iff.1 h
  simpa using (Option.filter_eq_some_iff.1 h).2

/-- A parameter with this name, if there is one, takes a text, and has no other if it is not
given one. -/
def Hands (d : Definition α) (name : String) (verbatim : Bool) : Prop :=
  ∀ p ∈ d.parameters, p.name = name →
    p.kind = .string ∧ p.variadic = false ∧ p.default? = none ∧ p.verbatim = verbatim

instance (d : Definition α) (name : String) (verbatim : Bool) :
    Decidable (d.Hands name verbatim) :=
  inferInstanceAs (Decidable (∀ p ∈ d.parameters, _))

/-- A name that no parameter has is that of no argument. -/
theorem get?_eq_none (hv : d.validate raw = .ok a) (hn : ∀ p ∈ d.parameters, p.name ≠ name) :
    a.get? name = none := by
  refine List.lookup_eq_none_iff.2 fun entry hentry => ?_
  have hmem : entry.1 ∈ d.parameters.map Parameter.name := by
    rw [← names_of_validate hv]
    exact List.mem_map_of_mem hentry
  obtain ⟨p, hp, hname⟩ := List.mem_map.1 hmem
  rw [bne_iff_ne, ← hname]
  exact (hn p hp).symm

/-- What is handed on under a name is the raw argument in its place. -/
theorem string?_eq (hs : Sound d.parameters) (hh : d.Hands name verbatim)
    (hv : d.validate raw = .ok a) :
    a.string? name = (d.argument? raw name).map fun r => if verbatim then r else Text.trim r := by
  unfold Arguments.string? argument?
  cases hi : d.parameters.findIdx? (·.name == name) with
  | none =>
    have hn : ∀ p ∈ d.parameters, p.name ≠ name := by
      simpa using List.findIdx?_eq_none_iff.1 hi
    rw [get?_eq_none hv hn]
    rfl
  | some i =>
    obtain ⟨hlt, hname, -⟩ := List.findIdx?_eq_some_iff_getElem.1 hi
    rw [beq_iff_eq] at hname
    obtain ⟨hkind, hsingle, hdefault, hverbatim⟩ := hh _ (List.getElem_mem hlt) hname
    obtain ⟨v, hget, hmakes⟩ := get?_of_validate hs hv (List.getElem?_eq_getElem hlt)
    -- without a default, the text is what is read in the place of the parameter
    have hread := Parameter.head?_readings hsingle raw i
    unfold Parameter.reading at hread
    rw [hverbatim] at hread
    rw [← hname, hget, Option.bind_some, Option.bind_some, ← hread]
    cases hmakes with
    | items hvariadic => cases hsingle.symm.trans hvariadic
    | text _ ht htake =>
      obtain ⟨-, hvalue⟩ := Parameter.take?_eq_some_iff.1 htake
      rw [hkind] at hvalue
      cases hvalue
      rw [hdefault, Option.or_none] at ht
      rw [ht]
      rfl
    | absent _ ht =>
      rw [hdefault, Option.or_none] at ht
      rw [ht]
      rfl

/-- A text that has to be given, and is handed on, is not blank. -/
theorem exists_string (hs : Sound d.parameters) (hd : d.Declares name .string)
    (hh : d.Hands name verbatim) (hv : d.validate raw = .ok a) :
    ∃ s, a.get? name = some (.string s) ∧ Text.allBlank s = false := by
  obtain ⟨v, hget, hkind⟩ := exists_ofKind hs hd hv
  cases hkind with
  | string s =>
    refine ⟨s, hget, ?_⟩
    have hstring := Arguments.string?_eq_some_iff.2 hget
    rw [string?_eq hs hh hv] at hstring
    obtain ⟨r, hr, rfl⟩ := Option.map_eq_some_iff.1 hstring
    cases verbatim with
    | true => exact allBlank_of_argument? hr
    | false => exact (Text.allBlank_trim r).trans (allBlank_of_argument? hr)

end Definition

end CanvasScript.Command
