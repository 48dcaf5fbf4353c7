import CanvasScript.Proofs.Command.Validation
import CanvasScript.Proofs.Text.Blank
import Mathlib.Data.Set.List

/-!
# What parameters read

Validation, seen through the texts that each parameter reads. A parameter takes the argument in its
place, or all those from its place on; it does not see blank ones, and it reads the others trimmed
unless blanks belong to them.

* `Parameter.taken`, `Parameter.readings`: the arguments that a parameter takes, of those from its
  place on, and what it reads in them.
* `Parameter.take?`, `Parameter.Makes`: the value of one text, and what the parameter makes of all
  that it reads.

Results:
* `Definition.bind_iff_makes`: the value of a parameter depends on nothing but its readings.
* `Definition.bindAll_eq_ok_iff`, `Definition.validate_eq_ok_iff`: arguments are accepted exactly
  if every parameter makes a value of its readings, and nothing but blanks is left over.
* `Definition.exists_validate_iff`: the same, without the values.
-/

namespace CanvasScript.Command

variable {α : Type}

namespace Parameter

variable (p : Parameter)

/-! ## Readings -/

/-- The arguments that the parameter takes, of those from its place on. -/
def taken (raw : List String) : List String :=
  if p.variadic then raw else raw.take 1

/-- The text that the parameter reads in an argument. -/
def reading (raw : String) : String :=
  if p.verbatim then raw else Text.trim raw

/-- The texts that the parameter reads in the arguments from its place on. -/
def readings (raw : List String) : List String :=
  ((p.taken raw).filter (!Text.allBlank ·)).map p.reading

theorem readings_nil : p.readings [] = [] := by
  unfold readings taken
  split <;> rfl

theorem readings_of_allBlank {r : String} (h : Text.allBlank r = true) : p.readings [r] = [] := by
  simp [readings, taken, h]

theorem readings_of_not_blank {r : String} (h : Text.allBlank r = false) :
    p.readings [r] = [p.reading r] := by
  simp [readings, taken, h]

variable {p}

/-- A parameter that takes one argument reads what stands in its place, and nothing else. -/
theorem readings_cons (h : p.variadic = false) (r : String) (raw : List String) :
    p.readings (r :: raw) = p.readings [r] := by
  simp [readings, taken, h]

/-- The same, the place being one among others. -/
theorem readings_drop (h : p.variadic = false) (raw : List String) (i : Nat) :
    p.readings (raw.drop i) = p.readings raw[i]?.toList := by
  rw [← List.head?_drop]
  cases raw.drop i with
  | nil => rfl
  | cons r raw => exact readings_cons h r raw

/-- It reads the argument in its place, unless that is blank. -/
theorem head?_readings (h : p.variadic = false) (raw : List String) (i : Nat) :
    (p.readings (raw.drop i)).head? = (raw[i]?.filter (!Text.allBlank ·)).map p.reading := by
  rw [readings_drop h]
  cases raw[i]? with
  | none =>
    rw [Option.toList_none, readings_nil, Option.filter_none, Option.map_none, List.head?_nil]
  | some r =>
    rw [Option.toList_some]
    by_cases hr : Text.allBlank r = true
    · simp [readings_of_allBlank p hr, hr]
    · simp [readings_of_not_blank p (Bool.eq_false_iff.2 hr), hr]

theorem readings_append (h : p.variadic = true) (raw more : List String) :
    p.readings (raw ++ more) = p.readings raw ++ p.readings more := by
  simp [readings, taken, h]

theorem mem_taken_iff {raw : List String} {i : Nat} {r : String} :
    r ∈ p.taken (raw.drop i) ↔
      ∃ j, raw[j]? = some r ∧ i ≤ j ∧ (p.variadic = true ∨ j = i) := by
  unfold Parameter.taken
  by_cases hv : p.variadic = true
  · rw [if_pos hv, List.mem_iff_getElem?]
    constructor
    · rintro ⟨k, hk⟩
      exact ⟨i + k, by rw [← hk, List.getElem?_drop], by omega, .inl hv⟩
    · rintro ⟨j, hj, hij, -⟩
      exact ⟨j - i, by rw [List.getElem?_drop, Nat.add_sub_cancel' hij, hj]⟩
  · rw [if_neg hv, List.take_one, List.head?_drop, Option.mem_toList]
    constructor
    · intro hr
      exact ⟨i, hr, Nat.le_refl i, .inr rfl⟩
    · rintro ⟨j, hj, -, hv' | rfl⟩
      · exact absurd hv' hv
      · exact hj

theorem mem_readings_iff {raw : List String} {text : String} :
    text ∈ p.readings raw ↔ ∃ r ∈ p.taken raw, Text.allBlank r = false ∧ p.reading r = text := by
  unfold readings
  simp [and_assoc]

/-- A parameter that takes one argument reads at most one text. -/
theorem readings_eq_nil_or (hv : p.variadic = false) (raw : List String) :
    p.readings raw = [] ∨ ∃ text, p.readings raw = [text] := by
  cases raw with
  | nil => exact .inl p.readings_nil
  | cons r raw =>
    rw [readings_cons hv]
    by_cases hr : Text.allBlank r = true
    · exact .inl (p.readings_of_allBlank hr)
    · exact .inr ⟨_, p.readings_of_not_blank (Bool.eq_false_iff.2 hr)⟩

/-! ## Values -/

variable (p) in
/-- The value of a text, if it is among the listed values and of the declared type. -/
def take? (text : String) : Option Value :=
  if p.allowed?.all (·.contains text) then p.kind.value? text else none

theorem exists_items_iff {texts : List String} :
    (∃ items : List Value, texts.map p.take? = items.map some) ↔
      ∀ text ∈ texts, ∃ v, p.take? text = some v := by
  have hrange := Set.ext_iff.1 (Set.range_list_map (some : Value → Option Value))
    (texts.map p.take?)
  simp only [Set.mem_range, Set.mem_ofPred_eq, List.forall_mem_map, @eq_comm _ (some _),
    @eq_comm _ (List.map some _)] at hrange
  exact hrange

variable (p) in
/-- What the parameter makes of the texts that it reads. -/
inductive Makes (texts : List String) : Value → Prop
  /-- All of them, of which there has to be one if the parameter is required. -/
  | items (hp : p.variadic = true) {items : List Value}
      (h : texts.map p.take? = items.map some)
      (hr : items = [] → p.required = false) : Makes texts (.list items)
  /-- The text, or the default in its place. -/
  | text (hp : p.variadic = false) {text : String} {v : Value}
      (ht : texts.head?.or p.default? = some text) (hv : p.take? text = some v) : Makes texts v
  /-- Nothing, since there is neither. -/
  | absent (hp : p.variadic = false) (ht : texts.head?.or p.default? = none)
      (hr : p.required = false) : Makes texts .absent

theorem toOption_accept (command text : String) :
    (p.accept command text).toOption = p.take? text := by
  have hconvert : (accept.convertText p command text).toOption = p.kind.value? text := by
    unfold accept.convertText
    cases p.kind.value? text <;> rfl
  unfold accept take?
  cases p.allowed? with
  | none => exact hconvert
  | some allowed =>
    rw [Option.all_some]
    dsimp only
    split
    · exact hconvert
    · rfl

/-- An argument that is not blank is converted as it is read. -/
theorem toOption_convert {r : String} (h : Text.allBlank r = false) (command : String) :
    (p.convert command (some r)).toOption = p.take? (p.reading r) := by
  have hgiven : p.given? (some r) = some (p.reading r) := by
    simp [given?, h, reading]
  rw [convert, hgiven]
  exact toOption_accept command _

/-- The text that a parameter converts is the one that it reads, or else the default. -/
theorem given?_head? (h : p.variadic = false) (raw : List String) :
    p.given? raw.head? = (p.readings raw).head?.or p.default? := by
  cases raw with
  | nil => simp [given?, readings_nil]
  | cons r raw =>
    rw [readings_cons h]
    by_cases hr : Text.allBlank r = true
    · simp [given?, readings_of_allBlank p hr, hr]
    · simp [given?, readings_of_not_blank p (Bool.eq_false_iff.2 hr), hr, reading]

end Parameter

namespace Definition

variable {d : Definition α} {p : Parameter} {raw : List String}

/-! ## Single parameters -/

/-- Arguments are collected if all that is read in them has a value. -/
theorem collect_eq_ok_iff (hp : p.variadic = true) {items : List Value} :
    d.collect p raw = .ok items ↔ (p.readings raw).map p.take? = items.map some := by
  have hread : (raw.filter (!Text.allBlank ·)).map (fun r =>
      (p.convert d.name (some r)).toOption) =
      (raw.filter (!Text.allBlank ·)).map fun r => p.take? (p.reading r) := by
    refine List.map_congr_left fun r hr => Parameter.toOption_convert ?_ d.name
    simpa using (List.mem_filter.1 hr).2
  rw [collect, mapM_eq_ok_iff, hread, Parameter.readings, Parameter.taken, if_pos hp, List.map_map]
  rfl

theorem bind_iff_makes_of_variadic (hp : p.variadic = true) {v : Value} :
    d.bind p raw = .ok v ↔ p.Makes (p.readings raw) v := by
  unfold bind
  simp only [if_pos hp, bind_eq_ok_iff, collect_eq_ok_iff hp]
  constructor
  · rintro ⟨items, hitems, h⟩
    split at h
    · cases h
    · rename_i hneeded
      cases h
      refine .items hp hitems ?_
      rintro rfl
      simpa using hneeded
  · intro h
    cases h with
    | @items _ items hitems hneeded =>
      refine ⟨items, hitems, if_neg fun h => ?_⟩
      rw [Bool.and_eq_true, List.isEmpty_iff] at h
      rw [hneeded h.1] at h
      cases h.2
    | text hp' | absent hp' => cases hp.symm.trans hp'

theorem bind_iff_makes_of_single (hp : p.variadic = false) {v : Value} :
    d.bind p raw = .ok v ↔ p.Makes (p.readings raw) v := by
  rw [bind, if_neg (by simp [hp]), Parameter.convert, Parameter.given?_head? hp]
  cases ht : (p.readings raw).head?.or p.default? with
  | some text =>
    dsimp only
    rw [← toOption_eq_some_iff, Parameter.toOption_accept]
    constructor
    · exact .text hp ht
    · intro h
      cases h with
      | items hp' => cases hp.symm.trans hp'
      | text _ ht' hv =>
        cases ht.symm.trans ht'
        exact hv
      | absent _ ht' => cases ht.symm.trans ht'
  | none =>
    dsimp only
    constructor
    · intro h
      split at h
      · cases h
      · rename_i hneeded
        cases h
        exact .absent hp ht (Bool.eq_false_iff.2 hneeded)
    · intro h
      cases h with
      | items hp' => cases hp.symm.trans hp'
      | text _ ht' => cases ht.symm.trans ht'
      | absent _ _ hr => rw [if_neg (by simp [hr])]

/-- The value of a parameter depends on nothing but its readings. -/
theorem bind_iff_makes {v : Value} : d.bind p raw = .ok v ↔ p.Makes (p.readings raw) v := by
  cases hp : p.variadic with
  | true => exact bind_iff_makes_of_variadic hp
  | false => exact bind_iff_makes_of_single hp

/-! ## All parameters -/

/-- Values are bound one to each parameter, each made of what the parameter reads. -/
theorem bindAll_eq_ok_iff {ps : List Parameter} {values : List (String × Value)} :
    d.bindAll ps raw = .ok values ↔
      values.length = ps.length ∧ ∀ (i : Nat) (p : Parameter), ps[i]? = some p →
        ∃ v, values[i]? = some (p.name, v) ∧ p.Makes (p.readings (raw.drop i)) v := by
  induction ps generalizing raw values with
  | nil =>
    simp [bindAll, eq_comm]
  | cons p ps ih =>
    simp only [bindAll, bind_eq_ok_iff, bind_iff_makes, ih]
    constructor
    · rintro ⟨v, hv, vs, ⟨hlen, hvs⟩, h⟩
      cases h
      refine ⟨by simp [hlen], fun i q hq => ?_⟩
      cases i with
      | zero =>
        cases hq
        exact ⟨v, rfl, hv⟩
      | succ i => simpa using hvs i q hq
    · rintro ⟨hlen, h⟩
      cases values with
      | nil => cases hlen
      | cons entry vs =>
        obtain ⟨v, hentry, hv⟩ := h 0 p rfl
        cases hentry
        refine ⟨v, hv, vs, ⟨by simpa using hlen, fun i q hq => ?_⟩, rfl⟩
        simpa using h (i + 1) q hq

theorem exists_bindAll_iff {ps : List Parameter} :
    (∃ values, d.bindAll ps raw = .ok values) ↔
      ∀ (i : Nat) (p : Parameter), ps[i]? = some p → ∃ v, p.Makes (p.readings (raw.drop i)) v := by
  constructor
  · rintro ⟨values, h⟩ i p hp
    obtain ⟨v, -, hv⟩ := (bindAll_eq_ok_iff.1 h).2 i p hp
    exact ⟨v, hv⟩
  · intro h
    induction ps generalizing raw with
    | nil => exact ⟨[], rfl⟩
    | cons p ps ih =>
      obtain ⟨v, hv⟩ := h 0 p rfl
      have hrest : ∀ (i : Nat) (q : Parameter), ps[i]? = some q →
          ∃ v, q.Makes (q.readings (raw.tail.drop i)) v := by
        intro i q hq
        simpa using h (i + 1) q hq
      obtain ⟨values, hvalues⟩ := ih hrest
      refine ⟨(p.name, v) :: values, ?_⟩
      rw [List.drop_zero] at hv
      rw [bindAll, bind_iff_makes.2 hv, hvalues]
      rfl

/-! ## Calls -/

/-- Nothing is left over if there is a parameter that takes all the rest, or if it is blank. -/
theorem surplus?_eq_none_iff :
    d.surplus? raw = none ↔
      d.variadic?.isSome = true ∨
        ∀ r ∈ raw.drop d.parameters.length, Text.allBlank r = true := by
  unfold surplus?
  split
  · rename_i hv
    simp [hv]
  · rename_i hv
    simp [hv]

/-- Arguments are accepted exactly if every parameter makes a value of what it reads, and nothing
is left over. -/
theorem validate_eq_ok_iff {a : Arguments} :
    d.validate raw = .ok a ↔
      a.command = d.name ∧ d.bindAll d.parameters raw = .ok a.values ∧ d.surplus? raw = none := by
  unfold validate
  rw [bind_eq_ok_iff]
  constructor
  · rintro ⟨values, hb, h⟩
    split at h
    · cases h
    · rename_i hs
      cases h
      exact ⟨rfl, hb, hs⟩
  · rintro ⟨hc, hb, hs⟩
    refine ⟨a.values, hb, ?_⟩
    rw [hs, ← hc]

theorem exists_validate_iff :
    (∃ a, d.validate raw = .ok a) ↔
      (∀ (i : Nat) (p : Parameter), d.parameters[i]? = some p →
        ∃ v, p.Makes (p.readings (raw.drop i)) v) ∧ d.surplus? raw = none := by
  rw [← exists_bindAll_iff]
  constructor
  · rintro ⟨a, h⟩
    obtain ⟨-, hb, hs⟩ := validate_eq_ok_iff.1 h
    exact ⟨⟨a.values, hb⟩, hs⟩
  · rintro ⟨⟨values, hb⟩, hs⟩
    exact ⟨⟨d.name, values⟩, validate_eq_ok_iff.2 ⟨rfl, hb, hs⟩⟩

end Definition

end CanvasScript.Command
