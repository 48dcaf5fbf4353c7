/-!
# Maps in key order

A finite map kept as a list of entries with strictly increasing keys. Since the order is part of
the type, two maps with the same look-ups are equal.

* `KeyMap`: the map; `KeyMap.find?` is its view.
* `insert`, `erase`: one entry set or removed.
* `toList`, `keys`, `values`: the entries in key order.

Results:
* `find?_empty`, `find?_insert`, `find?_erase`: each operation through the view.
* `mem_toList_iff`: the entries are the look-ups that succeed.
* `ext`: maps with equal look-ups are equal.
* `size_erase_lt`, `size_erase_le`, `size_insert_of_find?`: sizes, for recursions over maps.
-/

namespace CanvasScript

/-- Entries with strictly increasing keys. -/
structure KeyMap (κ : Type) [Ord κ] (α : Type) where
  entries : List (κ × α)
  ordered : entries.Pairwise fun a b => compare a.1 b.1 = .lt

namespace KeyMap

variable {κ : Type} [Ord κ] {α : Type}

/-! ## On lists of entries -/

/-- The value of the first entry with a key. -/
def lookup (k : κ) : List (κ × α) → Option α
  | [] => none
  | (k', x) :: es => if compare k k' = .eq then some x else lookup k es

/-- The entries with one of them set. -/
def insertInto (k : κ) (x : α) : List (κ × α) → List (κ × α)
  | [] => [(k, x)]
  | (k', y) :: es =>
    match compare k k' with
    | .lt => (k, x) :: (k', y) :: es
    | .eq => (k, x) :: es
    | .gt => (k', y) :: insertInto k x es

/-- The entries without those of a key. -/
def eraseFrom (k : κ) : List (κ × α) → List (κ × α)
  | [] => []
  | (k', y) :: es => if compare k k' = .eq then eraseFrom k es else (k', y) :: eraseFrom k es

/-! ## The order is kept -/

section Ordered

variable [Std.TransOrd κ]

omit [Std.TransOrd κ] in
theorem mem_insertInto {k : κ} {x : α} {e : κ × α} :
    ∀ {es : List (κ × α)}, e ∈ insertInto k x es → e = (k, x) ∨ e ∈ es
  | [], h => by simpa [insertInto] using h
  | (k', y) :: es, h => by
    unfold insertInto at h
    split at h
    · simpa using h
    · rcases List.mem_cons.1 h with h | h
      · exact Or.inl h
      · exact Or.inr (List.mem_cons_of_mem _ h)
    · rcases List.mem_cons.1 h with h | h
      · exact Or.inr (h ▸ List.mem_cons_self ..)
      · exact (mem_insertInto h).imp_right (List.mem_cons_of_mem _)

omit [Std.TransOrd κ] in
theorem mem_eraseFrom {k : κ} {e : κ × α} :
    ∀ {es : List (κ × α)}, e ∈ eraseFrom k es → e ∈ es
  | [], h => by simp [eraseFrom] at h
  | (k', y) :: es, h => by
    unfold eraseFrom at h
    split at h
    · exact List.mem_cons_of_mem _ (mem_eraseFrom h)
    · rcases List.mem_cons.1 h with h | h
      · exact h ▸ List.mem_cons_self ..
      · exact List.mem_cons_of_mem _ (mem_eraseFrom h)

theorem ordered_insertInto (k : κ) (x : α) {es : List (κ × α)}
    (h : es.Pairwise fun a b => compare a.1 b.1 = .lt) :
    (insertInto k x es).Pairwise fun a b => compare a.1 b.1 = .lt := by
  induction es with
  | nil => simp [insertInto]
  | cons e es ih =>
    obtain ⟨k', y⟩ := e
    obtain ⟨hlt, hes⟩ := List.pairwise_cons.1 h
    unfold insertInto
    split
    · rename_i hc
      refine List.pairwise_cons.2 ⟨fun b hb => ?_, h⟩
      rcases List.mem_cons.1 hb with rfl | hb
      · exact hc
      · exact Std.TransCmp.lt_trans hc (hlt b hb)
    · rename_i hc
      exact List.pairwise_cons.2 ⟨fun b hb => Std.TransCmp.lt_of_eq_of_lt hc (hlt b hb), hes⟩
    · rename_i hc
      refine List.pairwise_cons.2 ⟨fun b hb => ?_, ih hes⟩
      rcases mem_insertInto hb with rfl | hb
      · exact Std.OrientedCmp.lt_of_gt hc
      · exact hlt b hb

omit [Std.TransOrd κ] in
theorem ordered_eraseFrom (k : κ) {es : List (κ × α)}
    (h : es.Pairwise fun a b => compare a.1 b.1 = .lt) :
    (eraseFrom k es).Pairwise fun a b => compare a.1 b.1 = .lt := by
  induction es with
  | nil => simp [eraseFrom]
  | cons e es ih =>
    obtain ⟨hlt, hes⟩ := List.pairwise_cons.1 h
    unfold eraseFrom
    split
    · exact ih hes
    · exact List.pairwise_cons.2 ⟨fun b hb => hlt b (mem_eraseFrom hb), ih hes⟩

end Ordered

/-! ## The map -/

/-- The map without entries. -/
def empty : KeyMap κ α := ⟨[], .nil⟩

instance : Inhabited (KeyMap κ α) := ⟨empty⟩

instance : EmptyCollection (KeyMap κ α) := ⟨empty⟩

/-- The value stored under a key. -/
def find? (m : KeyMap κ α) (k : κ) : Option α :=
  lookup k m.entries

/-- Something is stored under the key. -/
def contains (m : KeyMap κ α) (k : κ) : Bool :=
  (m.find? k).isSome

/-- The entries in key order. -/
def toList (m : KeyMap κ α) : List (κ × α) := m.entries

/-- The keys in order. -/
def keys (m : KeyMap κ α) : List κ := m.entries.map (·.1)

/-- The values in the order of their keys. -/
def values (m : KeyMap κ α) : List α := m.entries.map (·.2)

/-- The number of entries. -/
def size (m : KeyMap κ α) : Nat := m.entries.length

/-- There are no entries. -/
def isEmpty (m : KeyMap κ α) : Bool := m.entries.isEmpty

section Operations

variable [Std.TransOrd κ]

/-- The map with `x` stored under `k`. -/
def insert (m : KeyMap κ α) (k : κ) (x : α) : KeyMap κ α :=
  ⟨insertInto k x m.entries, ordered_insertInto k x m.ordered⟩

/-- The map with nothing stored under `k`. -/
def erase (m : KeyMap κ α) (k : κ) : KeyMap κ α :=
  ⟨eraseFrom k m.entries, ordered_eraseFrom k m.ordered⟩

/-- The map with entries stored one after the other. -/
def insertAll (m : KeyMap κ α) (es : List (κ × α)) : KeyMap κ α :=
  es.foldl (fun m e => m.insert e.1 e.2) m

/-- The entries of a list, the last one of each key. -/
def ofList (es : List (κ × α)) : KeyMap κ α :=
  empty.insertAll es

end Operations

/-! ## Operations through the view -/

theorem find?_empty (k : κ) : (empty : KeyMap κ α).find? k = none := rfl

section View

variable [Std.TransOrd κ] [Std.LawfulEqOrd κ]

omit [Std.TransOrd κ] in
theorem lookup_insertInto (k : κ) (x : α) (k' : κ) (es : List (κ × α)) :
    lookup k' (insertInto k x es) = if compare k' k = .eq then some x else lookup k' es := by
  induction es with
  | nil => simp [insertInto, lookup]
  | cons e es ih =>
    obtain ⟨k₂, y⟩ := e
    unfold insertInto
    split
    · simp [lookup]
    · rename_i hc
      have : k = k₂ := Std.LawfulEqCmp.eq_of_compare hc
      subst this
      by_cases h : compare k' k = .eq <;> simp [lookup, h]
    · rename_i hc
      simp only [lookup, ih]
      by_cases h₂ : compare k' k₂ = .eq
      · have : k' = k₂ := Std.LawfulEqCmp.eq_of_compare h₂
        subst this
        have : compare k' k ≠ .eq := by
          intro h
          have := Std.LawfulEqCmp.eq_of_compare h
          subst this
          simp at hc
        simp [this]
      · simp [h₂]

theorem lookup_eraseFrom (k k' : κ) (es : List (κ × α)) :
    lookup k' (eraseFrom k es) = if compare k' k = .eq then none else lookup k' es := by
  induction es with
  | nil => simp [eraseFrom, lookup]
  | cons e es ih =>
    obtain ⟨k₂, y⟩ := e
    unfold eraseFrom
    by_cases hk : compare k k₂ = .eq
    · have : k = k₂ := Std.LawfulEqCmp.eq_of_compare hk
      subst this
      by_cases h : compare k' k = .eq <;> simp [lookup, ih, h]
    · simp only [hk, if_false, lookup, ih]
      by_cases h₂ : compare k' k₂ = .eq
      · have : k' = k₂ := Std.LawfulEqCmp.eq_of_compare h₂
        subst this
        have : compare k' k ≠ .eq := fun h => hk (Std.OrientedCmp.eq_symm h)
        simp [this]
      · simp [h₂]

theorem find?_insert (m : KeyMap κ α) (k k' : κ) (x : α) :
    (m.insert k x).find? k' = if compare k' k = .eq then some x else m.find? k' :=
  lookup_insertInto k x k' m.entries

theorem find?_erase (m : KeyMap κ α) (k k' : κ) :
    (m.erase k).find? k' = if compare k' k = .eq then none else m.find? k' :=
  lookup_eraseFrom k k' m.entries

end View

/-! ## Sizes -/

section Sizes

variable [Std.TransOrd κ]

omit [Std.TransOrd κ] in
theorem length_eraseFrom_le (k : κ) (es : List (κ × α)) :
    (eraseFrom k es).length ≤ es.length := by
  induction es with
  | nil => simp [eraseFrom]
  | cons e es ih =>
    unfold eraseFrom
    split
    · exact Nat.le_succ_of_le ih
    · simpa using ih

omit [Std.TransOrd κ] in
theorem size_erase_le (m : KeyMap κ α) (k : κ) : (m.erase k).size ≤ m.size :=
  length_eraseFrom_le k m.entries

omit [Std.TransOrd κ] in
theorem length_eraseFrom_lt {k : κ} {x : α} {es : List (κ × α)} (h : lookup k es = some x) :
    (eraseFrom k es).length < es.length := by
  induction es with
  | nil => simp [lookup] at h
  | cons e es ih =>
    obtain ⟨k', y⟩ := e
    unfold eraseFrom
    by_cases hk : compare k k' = .eq
    · simpa [hk] using Nat.lt_succ_of_le (length_eraseFrom_le k es)
    · simp only [lookup, hk, if_false] at h
      simpa [hk] using ih h

omit [Std.TransOrd κ] in
/-- Erasing a key that is there makes the map smaller. -/
theorem size_erase_lt {m : KeyMap κ α} {k : κ} {x : α} (h : m.find? k = some x) :
    (m.erase k).size < m.size :=
  length_eraseFrom_lt h

theorem length_insertInto {k : κ} {x y : α} {es : List (κ × α)}
    (ho : es.Pairwise fun a b => compare a.1 b.1 = .lt) (h : lookup k es = some y) :
    (insertInto k x es).length = es.length := by
  induction es with
  | nil => simp [lookup] at h
  | cons e es ih =>
    obtain ⟨k', z⟩ := e
    obtain ⟨hlt, hes⟩ := List.pairwise_cons.1 ho
    unfold insertInto
    split
    · rename_i hc
      exfalso
      simp only [lookup, hc, reduceCtorEq, if_false] at h
      clear ih ho
      induction es with
      | nil => simp [lookup] at h
      | cons e es ih =>
        have := Std.TransCmp.lt_trans hc (hlt e (List.mem_cons_self ..))
        simp only [lookup, this, reduceCtorEq, if_false] at h
        exact ih (fun b hb => hlt b (List.mem_cons_of_mem _ hb)) (List.pairwise_cons.1 hes).2 h
    · rfl
    · rename_i hc
      simp only [lookup, hc, reduceCtorEq, if_false] at h
      simpa using ih hes h

/-- Setting a key that is there keeps the size. -/
theorem size_insert_of_find? {m : KeyMap κ α} {k : κ} {x y : α} (h : m.find? k = some y) :
    (m.insert k x).size = m.size :=
  length_insertInto m.ordered h

end Sizes

/-! ## Extensionality -/

section Ext

variable [Std.TransOrd κ] [Std.LawfulEqOrd κ]

omit [Std.TransOrd κ] in
theorem lookup_eq_some_iff {k : κ} {x : α} {es : List (κ × α)}
    (ho : es.Pairwise fun a b => compare a.1 b.1 = .lt) :
    lookup k es = some x ↔ (k, x) ∈ es := by
  induction es with
  | nil => simp [lookup]
  | cons e es ih =>
    obtain ⟨k', y⟩ := e
    obtain ⟨hlt, hes⟩ := List.pairwise_cons.1 ho
    by_cases hk : compare k k' = .eq
    · have : k = k' := Std.LawfulEqCmp.eq_of_compare hk
      subst this
      have hn : (k, x) ∉ es := fun hm => by simpa using hlt _ hm
      simp [lookup, hn, eq_comm]
    · have hne : k ≠ k' := fun h => hk (h ▸ Std.ReflCmp.compare_self)
      simp [lookup, hk, ih hes, hne]

omit [Std.TransOrd κ] in
/-- The entries are the look-ups that succeed. -/
theorem mem_toList_iff {m : KeyMap κ α} {k : κ} {x : α} :
    (k, x) ∈ m.toList ↔ m.find? k = some x :=
  (lookup_eq_some_iff m.ordered).symm

theorem entries_eq_of_mem {es fs : List (κ × α)}
    (he : es.Pairwise fun a b => compare a.1 b.1 = .lt)
    (hf : fs.Pairwise fun a b => compare a.1 b.1 = .lt) (h : ∀ e, e ∈ es ↔ e ∈ fs) : es = fs := by
  induction es generalizing fs with
  | nil =>
    cases fs with
    | nil => rfl
    | cons f fs => exact absurd ((h f).2 (List.mem_cons_self ..)) (by simp)
  | cons e es ih =>
    cases fs with
    | nil => exact absurd ((h e).1 (List.mem_cons_self ..)) (by simp)
    | cons f fs =>
      obtain ⟨hle, hes⟩ := List.pairwise_cons.1 he
      obtain ⟨hlf, hfs⟩ := List.pairwise_cons.1 hf
      have hef : e = f := by
        rcases List.mem_cons.1 ((h e).1 (List.mem_cons_self ..)) with h₁ | h₁
        · exact h₁
        · rcases List.mem_cons.1 ((h f).2 (List.mem_cons_self ..)) with h₂ | h₂
          · exact h₂.symm
          · have a := hlf e h₁
            have b := hle f h₂
            have := Std.TransCmp.lt_trans a b
            simp at this
      subst hef
      congr 1
      refine ih hes hfs fun a => ⟨fun ha => ?_, fun ha => ?_⟩
      · rcases List.mem_cons.1 ((h a).1 (List.mem_cons_of_mem _ ha)) with rfl | h'
        · have := hle a ha
          simp at this
        · exact h'
      · rcases List.mem_cons.1 ((h a).2 (List.mem_cons_of_mem _ ha)) with rfl | h'
        · have := hlf a ha
          simp at this
        · exact h'

/-- Maps with the same look-ups are equal. -/
theorem ext {m n : KeyMap κ α} (h : ∀ k, m.find? k = n.find? k) : m = n := by
  obtain ⟨es, he⟩ := m
  obtain ⟨fs, hf⟩ := n
  have : es = fs := entries_eq_of_mem he hf fun ⟨k, x⟩ => by
    rw [← lookup_eq_some_iff he, ← lookup_eq_some_iff hf]
    exact Eq.to_iff (congrArg (· = some x) (h k))
  subst this
  rfl

end Ext

end KeyMap

end CanvasScript
