import CanvasScript.Data.KeyMap

/-!
# Entries of maps

* `KeyMap.filter`: the entries whose values pass a test.
* `KeptUnder`: every value of a map has a property, and is kept under its own name.

Results:
* `find?_erase_eq_some_iff`, `find?_filter_eq_some_iff`: what is left of a map.
* `keptUnder_empty`, `KeptUnder.insert`, `KeptUnder.erase`: values that are kept under their names,
  and those that are put in later.
-/

namespace CanvasScript

variable {κ β : Type} [Ord κ]

namespace KeyMap

theorem find?_eq_none_of_isEmpty {m : KeyMap κ β} (h : m.isEmpty = true) (k : κ) :
    m.find? k = none := by
  unfold isEmpty at h
  unfold find?
  rw [List.isEmpty_iff.1 h]
  rfl

/-- The entries whose values pass a test. -/
def filter (m : KeyMap κ β) (test : β → Bool) : KeyMap κ β :=
  ⟨m.entries.filter fun e => test e.2, m.ordered.sublist List.filter_sublist⟩

variable [Std.TransOrd κ] [Std.LawfulEqOrd κ]

theorem find?_erase_eq_some_iff {m : KeyMap κ β} {k k' : κ} {x : β} :
    (m.erase k).find? k' = some x ↔ k' ≠ k ∧ m.find? k' = some x := by
  rw [find?_erase]
  by_cases hk : k' = k <;> simp [hk]

/-- Nothing is erased where nothing is stored. -/
theorem erase_of_find?_eq_none {m : KeyMap κ β} {k : κ} (h : m.find? k = none) : m.erase k = m := by
  refine ext fun k' => ?_
  rw [find?_erase]
  by_cases hk : k' = k <;> simp [hk, h]

omit [Std.TransOrd κ] in
theorem find?_filter_eq_some_iff {m : KeyMap κ β} {test : β → Bool} {k : κ} {x : β} :
    (m.filter test).find? k = some x ↔ m.find? k = some x ∧ test x = true := by
  rw [← mem_toList_iff, ← mem_toList_iff, toList, filter, List.mem_filter]
  rfl

theorem insert_ne_empty (m : KeyMap κ β) (k : κ) (x : β) : m.insert k x ≠ empty := by
  intro hempty
  have hfind := find?_insert m k k x
  rw [hempty, find?_empty, if_pos Std.ReflCmp.compare_self] at hfind
  cases hfind

end KeyMap

/-- Every value of the map has the property, and is kept under its own name. -/
def KeptUnder (name : β → κ) (P : β → Prop) (m : KeyMap κ β) : Prop :=
  ∀ k x, m.find? k = some x → P x ∧ name x = k

variable {name : β → κ} {P : β → Prop} {m : KeyMap κ β}

theorem keptUnder_empty : KeptUnder name P (KeyMap.empty : KeyMap κ β) := by
  intro k x h
  cases h

namespace KeptUnder

variable [Std.TransOrd κ] [Std.LawfulEqOrd κ]

theorem insert (h : KeptUnder name P m) {x : β} (hx : P x) :
    KeptUnder name P (m.insert (name x) x) := by
  intro k y hy
  rw [KeyMap.find?_insert] at hy
  split at hy
  · rename_i hk
    cases hy
    exact ⟨hx, (Std.LawfulEqCmp.eq_of_compare hk).symm⟩
  · exact h k y hy

theorem erase (h : KeptUnder name P m) (k : κ) : KeptUnder name P (m.erase k) :=
  fun k' x hx => h k' x (KeyMap.find?_erase_eq_some_iff.1 hx).2

end KeptUnder

end CanvasScript
