import CanvasScript.Proofs.Command.Readings

/-!
# Sound declarations

What the check of a definition says about its parameters, and what follows for the arguments of a
call: which parameter takes which argument, when a parameter has a value, and under which name the
value is found.

* `Sound`: the parameters of a definition that passes its check.

Results:
* `Definition.sound_of_check`: a definition that can be registered has sound parameters.
* `Sound.exists_taken_iff`: the parameter at the place of an argument is the one that takes it.
* `Sound.exists_makes_iff`: a parameter has a value unless it refuses an argument or lacks one.
* `Definition.get?_of_validate`: what a parameter makes of the arguments is found under its name.
-/

namespace CanvasScript.Command

variable {α : Type}

/-- Parameters that go together. -/
structure Sound (ps : List Parameter) : Prop where
  /-- No two of them have the same name. -/
  names : (ps.map Parameter.name).Nodup
  /-- What is required has no default. -/
  required : ∀ p ∈ ps, p.required = true → p.default? = none
  /-- Nothing follows a parameter that takes all the rest. -/
  last : ∀ (i : Nat) (p : Parameter), ps[i]? = some p → p.variadic = true → i + 1 = ps.length
  /-- A default is a value that its own parameter accepts. -/
  default : ∀ p ∈ ps, ∀ text, p.default? = some text → ∃ v, p.take? text = some v

namespace Definition

variable {d : Definition α} {earlier ps : List Parameter} {p : Parameter}

/-! ## The check -/

theorem exists_take?_of_convert {command text : String} {v : Value} (hd : p.default? = some text)
    (h : p.convert command none = .ok v) : ∃ v, p.take? text = some v := by
  have hgiven : p.given? none = some text := hd
  rw [Parameter.convert, hgiven] at h
  exact ⟨v, by rw [← Parameter.toOption_accept command, toOption_eq_some_iff.2 h]⟩

/-- What a parameter in which the check finds no fault has in common with those around it. -/
theorem of_parameterFault?_eq_none (h : d.parameterFault? earlier p ps = none) :
    (∀ q ∈ earlier, q.name ≠ p.name) ∧ (p.required = true → p.default? = none) ∧
      (p.variadic = true → ps = []) ∧
      ∀ text, p.default? = some text → ∃ v, p.take? text = some v := by
  unfold parameterFault? at h
  split at h
  · cases h
  rename_i hname
  split at h
  · cases h
  rename_i hrequired
  split at h
  · cases h
  rename_i hlast
  refine ⟨?_, ?_, ?_, fun text htext => ?_⟩
  · simpa using hname
  · simpa using hrequired
  · simpa using hlast
  · rw [htext, Option.isSome_some, if_pos rfl] at h
    split at h
    · rename_i hconvert
      exact exists_take?_of_convert htext hconvert
    · cases h

theorem sound_of_parametersFault? (h : d.parametersFault? earlier ps = none) :
    Sound ps ∧ ∀ p ∈ ps, ∀ q ∈ earlier, q.name ≠ p.name := by
  induction ps generalizing earlier with
  | nil => exact ⟨⟨List.nodup_nil, nofun, nofun, nofun⟩, nofun⟩
  | cons p ps ih =>
    rw [parametersFault?, Option.or_eq_none_iff] at h
    obtain ⟨hname, hrequired, hlast, hdefault⟩ := of_parameterFault?_eq_none h.1
    obtain ⟨hps, hothers⟩ := ih h.2
    refine ⟨⟨?_, ?_, ?_, ?_⟩, ?_⟩
    · rw [List.map_cons, List.nodup_cons]
      refine ⟨fun hmem => ?_, hps.names⟩
      obtain ⟨q, hq, hqp⟩ := List.mem_map.1 hmem
      exact hothers q hq p (by simp) hqp.symm
    · exact List.forall_mem_cons.2 ⟨hrequired, hps.required⟩
    · intro i q hq hv
      cases i with
      | zero =>
        cases hq
        rw [hlast hv]
        rfl
      | succ i => simpa using hps.last i q (by simpa using hq) hv
    · exact List.forall_mem_cons.2 ⟨hdefault, hps.default⟩
    · exact List.forall_mem_cons.2
        ⟨hname, fun q hq r hr => hothers q hq r (List.mem_append_left _ hr)⟩

theorem sound_of_fault? (h : d.fault? = none) : Sound d.parameters := by
  unfold fault? at h
  split at h
  · cases h
  · split at h
    · cases h
    · exact (sound_of_parametersFault? h).1

/-- A definition that can be registered has sound parameters. -/
theorem sound_of_check (h : d.check = .ok ()) : Sound d.parameters := by
  unfold check at h
  split at h
  · cases h
  · exact sound_of_fault? ‹_›

end Definition

/-- The parameter that takes all the rest is the one at the end. -/
theorem Definition.variadic?_eq_some_iff {d : Definition α} {p : Parameter} :
    d.variadic? = some p ↔ d.parameters.getLast? = some p ∧ p.variadic = true := by
  unfold variadic?
  rw [Option.filter_eq_some_iff]

namespace Sound

variable {d : Definition α} {ps : List Parameter} {p : Parameter} {raw : List String} {i : Nat}

/-! ## Places -/

theorem variadic?_of_getElem? (hs : Sound d.parameters) (hp : d.parameters[i]? = some p)
    (hv : p.variadic = true) : d.variadic? = some p := by
  rw [Definition.variadic?_eq_some_iff, List.getLast?_eq_getElem?, ← hs.last i p hp hv]
  exact ⟨hp, hv⟩

/-- A parameter stands in the place of an argument if it begins there, or before and takes all the
rest. -/
theorem parameterAt?_eq_some_iff (hs : Sound d.parameters) {j : Nat} :
    d.parameterAt? j = some p ↔
      ∃ i, d.parameters[i]? = some p ∧ i ≤ j ∧ (p.variadic = true ∨ j = i) := by
  unfold Definition.parameterAt?
  constructor
  · intro h
    rcases Option.or_eq_some_iff.1 h with hp | ⟨hnone, hv⟩
    · exact ⟨j, hp, Nat.le_refl j, .inr rfl⟩
    · obtain ⟨hlast, hv⟩ := Definition.variadic?_eq_some_iff.1 hv
      rw [List.getLast?_eq_getElem?] at hlast
      have hbehind := List.getElem?_eq_none_iff.1 hnone
      exact ⟨_, hlast, by omega, .inl hv⟩
  · rintro ⟨i, hp, hij, hv | rfl⟩
    · rcases Nat.eq_or_lt_of_le hij with rfl | hlt
      · rw [hp, Option.some_or]
      · have hlast := hs.last i p hp hv
        rw [List.getElem?_eq_none (by omega), Option.none_or, variadic?_of_getElem? hs hp hv]
    · rw [hp, Option.some_or]

/-- A parameter takes an argument exactly if it is the one in its place. -/
theorem exists_taken_iff (hs : Sound d.parameters) {r : String} :
    (∃ i, d.parameters[i]? = some p ∧ r ∈ p.taken (raw.drop i)) ↔
      ∃ j, raw[j]? = some r ∧ d.parameterAt? j = some p := by
  simp only [hs.parameterAt?_eq_some_iff, Parameter.mem_taken_iff]
  constructor
  · rintro ⟨i, hp, j, hr, hij⟩
    exact ⟨j, hr, i, hp, hij⟩
  · rintro ⟨j, hr, i, hp, hij⟩
    exact ⟨i, hp, j, hr, hij⟩

/-! ## Values -/

theorem takes_of_makes (hs : Sound ps) (hp : p ∈ ps) {v : Value}
    (h : p.Makes (p.readings raw) v) :
    (∀ text ∈ p.readings raw, ∃ v, p.take? text = some v) ∧
      (p.required = true → p.readings raw ≠ []) := by
  cases h with
  | @items _ items hitems hneeded =>
    refine ⟨Parameter.exists_items_iff.1 ⟨items, hitems⟩, fun hr hnil => ?_⟩
    rw [hnil, List.map_nil, eq_comm, List.map_eq_nil_iff] at hitems
    rw [hneeded hitems] at hr
    cases hr
  | @text hv text v ht htake =>
    rcases Parameter.readings_eq_nil_or hv raw with hnil | ⟨read, hone⟩
    · refine ⟨by simp [hnil], fun hr => ?_⟩
      rw [hnil, hs.required p hp hr] at ht
      cases ht
    · rw [hone] at ht ⊢
      cases ht
      simpa using ⟨v, htake⟩
  | absent hv ht hr =>
    rcases Parameter.readings_eq_nil_or hv raw with hnil | ⟨read, hone⟩
    · simp [hnil, hr]
    · rw [hone] at ht
      cases ht

/-- The default that stands in for what is not there is accepted in any case. -/
theorem exists_makes (hs : Sound ps) (hp : p ∈ ps)
    (htakes : ∀ text ∈ p.readings raw, ∃ v, p.take? text = some v)
    (hneeded : p.required = true → p.readings raw ≠ []) : ∃ v, p.Makes (p.readings raw) v := by
  by_cases hv : p.variadic = true
  · obtain ⟨items, hitems⟩ := Parameter.exists_items_iff.2 htakes
    refine ⟨.list items, .items hv hitems fun hnil => Bool.eq_false_iff.2 fun hr => ?_⟩
    rw [hnil, List.map_nil, List.map_eq_nil_iff] at hitems
    exact hneeded hr hitems
  · have hv : p.variadic = false := Bool.eq_false_iff.2 hv
    rcases Parameter.readings_eq_nil_or hv raw with hnil | ⟨read, hone⟩
    · -- nothing is read: the default has been tried when the definition was checked
      cases hd : p.default? with
      | some text =>
        obtain ⟨v, htake⟩ := hs.default p hp text hd
        exact ⟨v, .text hv (by rw [hnil, hd]; rfl) htake⟩
      | none =>
        refine ⟨.absent, .absent hv (by rw [hnil, hd]; rfl) ?_⟩
        exact Bool.eq_false_iff.2 fun hr => hneeded hr hnil
    · obtain ⟨v, htake⟩ := htakes read (by simp [hone])
      exact ⟨v, .text hv (by rw [hone]; rfl) htake⟩

/-- A parameter has a value exactly if it accepts all that it reads, and reads something if it is
required. -/
theorem exists_makes_iff (hs : Sound ps) (hp : p ∈ ps) :
    (∃ v, p.Makes (p.readings raw) v) ↔
      (∀ text ∈ p.readings raw, ∃ v, p.take? text = some v) ∧
        (p.required = true → p.readings raw ≠ []) := by
  constructor
  · rintro ⟨v, h⟩
    exact hs.takes_of_makes hp h
  · rintro ⟨htakes, hneeded⟩
    exact hs.exists_makes hp htakes hneeded

/-- A value is found under the name of its parameter. -/
theorem get?_of_mem (hs : Sound ps) {a : Arguments}
    (hnames : a.values.map Prod.fst = ps.map Parameter.name) {name : String} {v : Value}
    (hv : (name, v) ∈ a.values) : a.get? name = some v := by
  obtain ⟨before, behind, hsplit⟩ := List.append_of_mem hv
  refine List.lookup_eq_some_iff.2 ⟨before, behind, hsplit, fun entry hentry => ?_⟩
  -- the name is that of no value in front, so that the search goes on to this one
  have hnodup : (a.values.map Prod.fst).Nodup := hnames ▸ hs.names
  rw [hsplit, List.map_append, List.nodup_append] at hnodup
  rw [bne_iff_ne]
  exact (hnodup.2.2 entry.1 (List.mem_map_of_mem hentry) name (by simp)).symm

end Sound

/-! ## Calls -/

namespace Definition

variable {d : Definition α} {raw : List String} {a : Arguments}

/-- Nothing is left over if the arguments that are not blank stand in the places of parameters. -/
theorem surplus?_eq_none_iff_parameterAt? :
    d.surplus? raw = none ↔
      ∀ (j : Nat) (r : String), raw[j]? = some r → d.parameterAt? j = none →
        Text.allBlank r = true := by
  rw [surplus?_eq_none_iff]
  unfold parameterAt?
  simp only [Option.or_eq_none_iff, List.getElem?_eq_none_iff]
  constructor
  · rintro (hv | hblank) j r hr ⟨hbehind, hnone⟩
    · rw [hnone] at hv
      cases hv
    · refine hblank r (List.mem_iff_getElem?.2 ⟨j - d.parameters.length, ?_⟩)
      rw [List.getElem?_drop, Nat.add_sub_cancel' hbehind, hr]
  · intro h
    cases hv : d.variadic? with
    | some p => exact .inl rfl
    | none =>
      refine .inr fun r hr => ?_
      obtain ⟨k, hk⟩ := List.mem_iff_getElem?.1 hr
      rw [List.getElem?_drop] at hk
      exact h _ r hk ⟨Nat.le_add_right _ k, hv⟩

theorem getElem?_of_validate (h : d.validate raw = .ok a) {i : Nat} {p : Parameter}
    (hp : d.parameters[i]? = some p) :
    ∃ v, a.values[i]? = some (p.name, v) ∧ p.Makes (p.readings (raw.drop i)) v :=
  (bindAll_eq_ok_iff.1 (bindAll_of_validate h)).2 i p hp

/-- The values are those of the parameters, in their order. -/
theorem names_of_validate (h : d.validate raw = .ok a) :
    a.values.map Prod.fst = d.parameters.map Parameter.name := by
  have hlen := (bindAll_eq_ok_iff.1 (bindAll_of_validate h)).1
  apply List.ext_getElem?
  intro i
  rw [List.getElem?_map, List.getElem?_map]
  cases hp : d.parameters[i]? with
  | none =>
    have hbehind := List.getElem?_eq_none_iff.1 hp
    rw [List.getElem?_eq_none (by omega)]
    rfl
  | some p =>
    obtain ⟨v, hv, -⟩ := getElem?_of_validate h hp
    rw [hv]
    rfl

/-- What a parameter makes of the arguments is found under its name. -/
theorem get?_of_validate (hs : Sound d.parameters) (h : d.validate raw = .ok a) {i : Nat}
    {p : Parameter} (hp : d.parameters[i]? = some p) :
    ∃ v, a.get? p.name = some v ∧ p.Makes (p.readings (raw.drop i)) v := by
  obtain ⟨v, hv, hmakes⟩ := getElem?_of_validate h hp
  exact ⟨v, hs.get?_of_mem (names_of_validate h) (List.mem_of_getElem? hv), hmakes⟩

end Definition

end CanvasScript.Command
