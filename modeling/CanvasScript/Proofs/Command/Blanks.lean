import CanvasScript.Proofs.Command.Sound
import Mathlib.Logic.Relation

/-!
# Blanks in the arguments of a call

A call does not see how blank its blank arguments are, how many of them stand where nothing or a
list is expected, and which blanks surround the others, unless a parameter asks for them.

* `Definition.openFrom`: the place from which on a definition does not count its arguments.
* `Definition.Edit`: an edit of raw arguments that has to do with blanks alone.
* `Definition.ReadsAlike`: two lists of arguments in which the parameters read the same.

Results:
* `Definition.readsAlike_replace`, `Definition.readsAlike_insert`: what one argument more or less, or
  another one in its place, does to what is read.
* `Definition.readsAlike_of_edit`: an edit changes nothing that is read.
* `Definition.validate_eq_of_edits`: edits, done or undone in any combination, do not change what
  becomes of a call.
-/

namespace CanvasScript.Command.Definition

variable {α : Type} {d : Definition α} {p : Parameter} {raw raw' before after : List String}
  {x r r' : String}

/-! ## Edits -/

/-- The place from which on arguments are not told apart by their places: that of a parameter that
takes all the rest, or the one behind all parameters. -/
def openFrom (d : Definition α) : Nat :=
  if d.variadic?.isSome then d.parameters.length - 1 else d.parameters.length

/-- An edit of the raw arguments of a call. -/
inductive Edit (d : Definition α) : List String → List String → Prop
  /-- A blank argument is replaced by another. -/
  | blank (before after : List String) {x y : String} (hx : Text.allBlank x = true)
      (hy : Text.allBlank y = true) : Edit d (before ++ x :: after) (before ++ y :: after)
  /-- A blank argument is added at the end. -/
  | extend (raw : List String) {x : String} (hx : Text.allBlank x = true) :
      Edit d raw (raw ++ [x])
  /-- A blank argument is added in the list at the end, or among what no parameter takes. -/
  | insert (before after : List String) {x : String} (hx : Text.allBlank x = true)
      (ho : d.openFrom ≤ before.length) : Edit d (before ++ after) (before ++ x :: after)
  /-- Blanks are added around an argument to which they do not belong. -/
  | pad (before after : List String) {r left right : String} {p : Parameter}
      (hp : d.parameterAt? before.length = some p) (hv : p.verbatim = false)
      (hl : Text.allBlank left = true) (hr : Text.allBlank right = true) :
      Edit d (before ++ r :: after) (before ++ (left ++ r ++ right) :: after)

/-! ## What is read -/

/-- The parameters read the same in two lists of arguments, and leave nothing over in one if they
do so in the other. -/
structure ReadsAlike (d : Definition α) (raw raw' : List String) : Prop where
  readings : ∀ (i : Nat) (p : Parameter), d.parameters[i]? = some p →
    p.readings (raw.drop i) = p.readings (raw'.drop i)
  surplus : d.surplus? raw = none ↔ d.surplus? raw' = none

theorem readsAlike_equivalence (d : Definition α) : Equivalence d.ReadsAlike where
  refl _ := ⟨fun _ _ _ => rfl, Iff.rfl⟩
  symm h := ⟨fun i p hp => (h.readings i p hp).symm, h.surplus.symm⟩
  trans h h' :=
    ⟨fun i p hp => (h.readings i p hp).trans (h'.readings i p hp), h.surplus.trans h'.surplus⟩

/-- What is read alike has the same values, if it has any. -/
theorem ReadsAlike.validate (h : d.ReadsAlike raw raw') :
    (d.validate raw).toOption = (d.validate raw').toOption := by
  apply Option.ext
  intro a
  rw [toOption_eq_some_iff, toOption_eq_some_iff, validate_eq_ok_iff, validate_eq_ok_iff,
    bindAll_eq_ok_iff, bindAll_eq_ok_iff, h.surplus]
  have hvalues : ∀ (i : Nat) (p : Parameter), (d.parameters[i]? = some p →
      ∃ v, a.values[i]? = some (p.name, v) ∧ p.Makes (p.readings (raw.drop i)) v) ↔
      (d.parameters[i]? = some p →
        ∃ v, a.values[i]? = some (p.name, v) ∧ p.Makes (p.readings (raw'.drop i)) v) := by
    intro i p
    refine forall_congr' fun hp => ?_
    rw [h.readings i p hp]
  simp only [hvalues]

/-! ## Arguments that are replaced -/

theorem getElem?_replace {i : Nat} (hi : i ≠ before.length) :
    (before ++ r :: after)[i]? = (before ++ r' :: after)[i]? := by
  rw [List.getElem?_append, List.getElem?_append]
  split
  · rfl
  · rw [List.getElem?_cons, List.getElem?_cons, if_neg (by omega), if_neg (by omega)]

theorem drop_replace {i : Nat} (hi : before.length < i) :
    (before ++ r :: after).drop i = (before ++ r' :: after).drop i := by
  apply List.ext_getElem?
  intro k
  rw [List.getElem?_drop, List.getElem?_drop, getElem?_replace (by omega)]

theorem readings_replace (hs : Sound d.parameters)
    (hread : ∀ p, d.parameterAt? before.length = some p → p.readings [r] = p.readings [r'])
    {i : Nat} (hp : d.parameters[i]? = some p) :
    p.readings ((before ++ r :: after).drop i) = p.readings ((before ++ r' :: after).drop i) := by
  by_cases hi : before.length < i
  · rw [drop_replace hi]
  by_cases hv : p.variadic = true
  · -- the argument is one of those in the list, which is read item by item
    have hplace : d.parameterAt? before.length = some p :=
      hs.parameterAt?_eq_some_iff.2 ⟨i, hp, by omega, .inl hv⟩
    rw [List.drop_append_of_le_length (by omega), List.drop_append_of_le_length (by omega),
      List.append_cons, List.append_cons _ r', Parameter.readings_append hv,
      Parameter.readings_append hv, Parameter.readings_append hv,
      Parameter.readings_append hv _ [r'], hread p hplace]
  · rw [Parameter.readings_drop (Bool.eq_false_iff.2 hv),
      Parameter.readings_drop (Bool.eq_false_iff.2 hv)]
    by_cases hplace : i = before.length
    · subst hplace
      rw [List.getElem?_append_right (Nat.le_refl _), List.getElem?_append_right (Nat.le_refl _),
        Nat.sub_self]
      exact hread p (hs.parameterAt?_eq_some_iff.2 ⟨_, hp, Nat.le_refl _, .inr rfl⟩)
    · rw [getElem?_replace hplace]

/-- An argument can be replaced by one in which its parameter reads the same. -/
theorem readsAlike_replace (hs : Sound d.parameters)
    (hread : ∀ p, d.parameterAt? before.length = some p → p.readings [r] = p.readings [r'])
    (hblank : Text.allBlank r = Text.allBlank r') :
    d.ReadsAlike (before ++ r :: after) (before ++ r' :: after) := by
  refine ⟨fun i p hp => readings_replace hs hread hp, ?_⟩
  rw [surplus?_eq_none_iff_parameterAt?, surplus?_eq_none_iff_parameterAt?]
  refine forall_congr' fun j => ?_
  by_cases hj : j = before.length
  · subst hj
    simp [hblank]
  · rw [getElem?_replace hj]

/-! ## Arguments that are added -/

theorem openFrom_of_variadic (hs : Sound d.parameters) {i : Nat} (hp : d.parameters[i]? = some p)
    (hv : p.variadic = true) : d.openFrom = i := by
  have hlast := hs.last i p hp hv
  rw [openFrom, hs.variadic?_of_getElem? hp hv, Option.isSome_some, if_pos rfl, ← hlast,
    Nat.add_sub_cancel]

theorem lt_openFrom {i : Nat} (hp : d.parameters[i]? = some p) (hv : p.variadic = false) :
    i < d.openFrom := by
  obtain ⟨hlt, -⟩ := List.getElem?_eq_some_iff.1 hp
  unfold openFrom
  split
  · rename_i hrest
    obtain ⟨q, hq⟩ := Option.isSome_iff_exists.1 hrest
    obtain ⟨hlast, hvariadic⟩ := variadic?_eq_some_iff.1 hq
    rw [List.getLast?_eq_getElem?] at hlast
    -- the one at the end takes all the rest, so that this one is not it
    have hne : i ≠ d.parameters.length - 1 := by
      rintro rfl
      cases hp.symm.trans hlast
      rw [hv] at hvariadic
      cases hvariadic
    omega
  · exact hlt

theorem readings_insert (hs : Sound d.parameters) (hx : Text.allBlank x = true)
    (ho : d.openFrom ≤ before.length ∨ after = []) {i : Nat} (hp : d.parameters[i]? = some p) :
    p.readings ((before ++ after).drop i) = p.readings ((before ++ x :: after).drop i) := by
  by_cases hv : p.variadic = true
  · have hfrom := openFrom_of_variadic hs hp hv
    by_cases hi : i ≤ before.length
    · rw [List.drop_append_of_le_length hi, List.drop_append_of_le_length hi, List.append_cons,
        Parameter.readings_append hv, Parameter.readings_append hv, Parameter.readings_append hv,
        Parameter.readings_of_allBlank p hx, List.append_nil]
    · rcases ho with ho | rfl
      · omega
      · rw [List.drop_eq_nil_of_le (by simp; omega), List.drop_eq_nil_of_le (by simp; omega)]
  · have hv : p.variadic = false := Bool.eq_false_iff.2 hv
    -- a parameter with a place of its own stands in front of what is moved
    have hfrom := lt_openFrom hp hv
    rw [Parameter.readings_drop hv, Parameter.readings_drop hv]
    by_cases hi : i < before.length
    · rw [List.getElem?_append_left hi, List.getElem?_append_left hi]
    · rcases ho with ho | rfl
      · omega
      · rw [List.getElem?_append_right (by omega), List.getElem?_append_right (by omega)]
        cases i - before.length with
        | zero => exact p.readings_nil.trans (p.readings_of_allBlank hx).symm
        | succ k => rfl

theorem surplus?_insert (hx : Text.allBlank x = true)
    (ho : d.openFrom ≤ before.length ∨ after = []) :
    d.surplus? (before ++ after) = none ↔ d.surplus? (before ++ x :: after) = none := by
  rw [surplus?_eq_none_iff, surplus?_eq_none_iff]
  by_cases hv : d.variadic?.isSome = true
  · simp [hv]
  rw [openFrom, if_neg hv] at ho
  refine or_congr Iff.rfl ?_
  rcases ho with ho | rfl
  · rw [List.drop_append_of_le_length ho, List.drop_append_of_le_length ho]
    simp [or_imp, forall_and, hx]
  · have hone : ∀ k, ∀ r ∈ [x].drop k, Text.allBlank r = true := by
      intro k r hr
      rw [List.mem_singleton.1 (List.mem_of_mem_drop hr)]
      exact hx
    rw [List.append_nil, List.drop_append, List.forall_mem_append]
    exact ⟨fun h => ⟨h, hone _⟩, And.left⟩

/-- A blank argument can be added at the end, and where places do not count. -/
theorem readsAlike_insert (hs : Sound d.parameters) (hx : Text.allBlank x = true)
    (ho : d.openFrom ≤ before.length ∨ after = []) :
    d.ReadsAlike (before ++ after) (before ++ x :: after) :=
  ⟨fun _ _ hp => readings_insert hs hx ho hp, surplus?_insert hx ho⟩

/-! ## Edits of all kinds -/

/-- An edit changes nothing that is read. -/
theorem readsAlike_of_edit (hs : Sound d.parameters) (h : d.Edit raw raw') :
    d.ReadsAlike raw raw' := by
  cases h with
  | blank before after hx hy =>
    refine readsAlike_replace hs (fun p _ => ?_) (hx.trans hy.symm)
    rw [p.readings_of_allBlank hx, p.readings_of_allBlank hy]
  | @extend raw x hx =>
    have hend : d.ReadsAlike (raw ++ []) (raw ++ [x]) := readsAlike_insert hs hx (.inr rfl)
    rwa [List.append_nil] at hend
  | insert before after hx ho => exact readsAlike_insert hs hx (.inl ho)
  | @pad before after r left right p hp hv hl hr =>
    have hblank : Text.allBlank (left ++ r ++ right) = Text.allBlank r := by
      rw [Text.allBlank_append, Text.allBlank_append, hl, hr, Bool.true_and, Bool.and_true]
    refine readsAlike_replace hs (fun q hq => ?_) hblank.symm
    cases hp.symm.trans hq
    by_cases hfull : Text.allBlank r = true
    · rw [p.readings_of_allBlank hfull, p.readings_of_allBlank (hblank.trans hfull)]
    · have hfull := Bool.eq_false_iff.2 hfull
      rw [p.readings_of_not_blank hfull, p.readings_of_not_blank (hblank.trans hfull)]
      simp [Parameter.reading, hv, Text.trim_padded hl hr]

/-- Edits that have to do with blanks alone do not change what becomes of a call, in whatever
combination they are done or undone. -/
theorem validate_eq_of_edits (hc : d.check = .ok ()) (h : Relation.EqvGen d.Edit raw raw') :
    (d.validate raw).toOption = (d.validate raw').toOption := by
  have hedit : ∀ raw raw', d.Edit raw raw' → d.ReadsAlike raw raw' :=
    fun raw raw' => readsAlike_of_edit (sound_of_check hc)
  exact ((readsAlike_equivalence d).eqvGen_iff.1 (h.mono hedit)).validate

/-- A definition with a text in which blanks count, a number, and a list. -/
def banner : Definition Unit where
  name := "$banner"
  action := ()
  parameters := [
    { name := "Text", kind := .string, verbatim := true },
    { name := "Size", kind := .integer, default? := some "12" },
    { name := "Tags", kind := .unknown, variadic := true }]

theorem banner_validate_eq :
    (banner.validate [" hello ", "", "a", "b", ""]).toOption =
      (banner.validate [" hello ", " ", "a", "\t", "\u00a0b "]).toOption := by
  have hextend : banner.Edit [" hello ", "", "a", "b"] [" hello ", "", "a", "b", ""] :=
    .extend [" hello ", "", "a", "b"] (by decide)
  have hblank : banner.Edit [" hello ", "", "a", "b"] [" hello ", " ", "a", "b"] :=
    .blank [" hello "] ["a", "b"] (by decide) (by decide)
  have hinsert : banner.Edit [" hello ", " ", "a", "b"] [" hello ", " ", "a", "\t", "b"] :=
    .insert [" hello ", " ", "a"] ["b"] (by decide) (by decide)
  have hpad : banner.Edit [" hello ", " ", "a", "\t", "b"]
      [" hello ", " ", "a", "\t", "\u00a0" ++ "b" ++ " "] :=
    .pad [" hello ", " ", "a", "\t"] [] (by rfl) (by rfl) (by decide) (by decide)
  refine validate_eq_of_edits (by rfl) ?_
  refine .trans _ _ _ (.symm _ _ (.rel _ _ hextend)) ?_
  refine .trans _ _ _ (.rel _ _ hblank) ?_
  exact .trans _ _ _ (.rel _ _ hinsert) (.rel _ _ hpad)

end CanvasScript.Command.Definition
