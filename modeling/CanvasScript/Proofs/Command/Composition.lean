import CanvasScript.Proofs.Command.Families

/-!
# Registries made of packs

Packs are put into a registry one after the other, and families are taken out one after the other.
Each removal acts on what the ones before it have left, where families may overlap and a command may
have been the only way to others. The result is still that of removing all families at once.

* `stored`: commands put into a table, a later one in the place of an earlier one with its key.
* `outside`: the commands that are in none of the families of some names.
* `Composition.table`: the commands of a composition, by these two.
* `Composition.buildBy`: a composition built with the roots of each pack in a given order.
* `Composed`: what the registry of a composition is.

Results:
* `family_of_left`: what one removal leaves of another family.
* `commands_removeEach`: families removed one after the other are removed all at once.
* `removeEach_congr`: neither the order nor the number of removals matters.
* `tables_build`: a registry that is built has the commands of its composition.
* `build_composed`: all of it for every composition that can be built.
-/

namespace CanvasScript.Command

variable {α : Type} {P : Definition α → Prop} {m : KeyMap String (Definition α)}
  {key k : String} {d : Definition α} {ds : List (Definition α)} {names names' : List String}

/-! ## Commands put in -/

/-- Commands put into a table one after the other, a later one in the place of an earlier one with
its key. -/
def stored (m : KeyMap String (Definition α)) (ds : List (Definition α)) :
    KeyMap String (Definition α) :=
  m.insertAll (ds.map fun d => (d.key, d))

/-- Under each key there is the last command with this key, or what was there before. -/
theorem find?_stored (m : KeyMap String (Definition α)) (ds : List (Definition α)) (k : String) :
    (stored m ds).find? k = (ds.reverse.find? (·.key == k)).or (m.find? k) := by
  induction ds generalizing m with
  | nil => rfl
  | cons d ds ih =>
    have hfirst : (stored m (d :: ds)).find? k = (stored (m.insert d.key d) ds).find? k := rfl
    rw [hfirst, ih, KeyMap.find?_insert, List.reverse_cons, List.find?_append, Option.or_assoc]
    by_cases hk : d.key = k
    · simp [hk]
    · simp [hk, Ne.symm hk]

theorem mem_of_find?_stored (h : (stored m ds).find? k = some d) :
    d ∈ ds ∨ m.find? k = some d := by
  rw [find?_stored, Option.or_eq_some_iff] at h
  rcases h with h | ⟨-, h⟩
  · exact .inl (List.mem_reverse.1 (List.mem_of_find?_eq_some h))
  · exact .inr h

/-! ## Families left out -/

open Classical in
/-- The commands that are in none of the families of some names. -/
noncomputable def outside (m : KeyMap String (Definition α)) (names : List String) :
    KeyMap String (Definition α) :=
  m.filter fun d => ¬ InFamilies m (names.map Definition.keyOf) d

theorem find?_outside : (outside m names).find? k = some d ↔
    m.find? k = some d ∧ ¬ InFamilies m (names.map Definition.keyOf) d := by
  simp only [outside, KeyMap.find?_filter_eq_some_iff, decide_eq_true_eq]

theorem outside_congr (h : ∀ n, n ∈ names ↔ n ∈ names') : outside m names = outside m names' := by
  have hkeys : ∀ d, InFamilies m (names.map Definition.keyOf) d ↔
      InFamilies m (names'.map Definition.keyOf) d := by
    intro d
    simp only [InFamilies, List.mem_map, h]
  refine KeyMap.ext fun k => Option.ext fun d => ?_
  rw [find?_outside, find?_outside, hkeys]

/-- What the removal of one family leaves of another one: if something on the way to a command is
gone, then so is the command. -/
theorem family_of_left {m' : KeyMap String (Definition α)} {other : String}
    (hleft : ∀ k d, m'.find? k = some d ↔ m.find? k = some d ∧ ¬ Family m other d)
    (h : Family m key d) : Family m other d ∨ Family m' key d := by
  induction h with
  | @root d h =>
    by_cases hd : Family m other d
    · exact .inl hd
    · exact .inr (.root ((hleft key d).2 ⟨h, hd⟩))
  | @child d h hp =>
    by_cases hd : Family m other d
    · exact .inl hd
    · exact .inr (.child ((hleft d.key d).2 ⟨h, hd⟩) hp)
  | @descendant d e he h hp ih =>
    rcases ih with ih | ih
    · exact .inl (.descendant ih h hp)
    · by_cases hd : Family m other d
      · exact .inl hd
      · exact .inr (.descendant ih ((hleft d.key d).2 ⟨h, hd⟩) hp)

/-- One family left out first and the others afterwards are all left out. -/
theorem outside_cons {m' : KeyMap String (Definition α)} {name : String}
    (hleft : ∀ k d, m'.find? k = some d ↔
      m.find? k = some d ∧ ¬ Family m (Definition.keyOf name) d) :
    outside m' names = outside m (name :: names) := by
  have hiff : ∀ k d, (outside m' names).find? k = some d ↔
      (outside m (name :: names)).find? k = some d := by
    intro k d
    rw [find?_outside, find?_outside, hleft, and_assoc]
    refine and_congr_right fun _ => ?_
    rw [← not_or, not_iff_not]
    constructor
    · rintro (hfirst | ⟨key, hkey, hrest⟩)
      · exact ⟨_, List.mem_cons_self, hfirst⟩
      · exact ⟨key, List.mem_cons_of_mem _ hkey, hrest.mono fun k d h => ((hleft k d).1 h).1⟩
    · rintro ⟨key, hkey, h⟩
      rcases List.mem_cons.1 hkey with rfl | hkey
      · exact .inl h
      · exact (family_of_left hleft h).imp_right fun h' => ⟨key, hkey, h'⟩
  refine KeyMap.ext fun k => Option.ext fun d => hiff k d

namespace Registry

variable {r r' : Registry α}

theorem left_removeFamily (h : r.Consistent) (name : String) (k : String) (d : Definition α) :
    (r.removeFamily name).2.commands.find? k = some d ↔
      r.commands.find? k = some d ∧ ¬ Family r.commands (Definition.keyOf name) d := by
  rw [removeFamily, (removes_removeFamilies (h.but _)).left, inFamilies_singleton]

theorem consistent_removeEach (h : r.Consistent) (names : List String) :
    (r.removeEach names).Consistent := by
  unfold removeEach
  induction names generalizing r with
  | nil => exact h
  | cons name names ih => exact ih (consistent_removeFamily h name)

/-- Families removed one after the other are removed all at once. -/
theorem commands_removeEach (h : r.Consistent) (names : List String) :
    (r.removeEach names).commands = outside r.commands names := by
  induction names generalizing r with
  | nil =>
    refine KeyMap.ext fun k => Option.ext fun d => ?_
    rw [find?_outside]
    simp [InFamilies, removeEach]
  | cons name names ih =>
    have hrest := ih (consistent_removeFamily h name)
    rw [outside_cons (left_removeFamily h name)] at hrest
    exact hrest

/-- Neither the order nor the number of removals matters. -/
theorem removeEach_congr (h : r.Consistent) (hn : ∀ n, n ∈ names ↔ n ∈ names') :
    r.removeEach names = r.removeEach names' := by
  refine (consistent_removeEach h names).ext (consistent_removeEach h names') ?_
  rw [commands_removeEach h, commands_removeEach h, outside_congr hn]

theorem commands_register (h : r.register d = .ok r') :
    r'.commands = r.commands.insert d.key d := by
  obtain ⟨u, -, h⟩ := of_bind_ok h
  cases h
  rfl

/-- Commands that are all accepted are put in one after the other. -/
theorem commands_load (h : (r.load ds).2 = none) :
    (r.load ds).1.commands = stored r.commands ds := by
  induction ds generalizing r with
  | nil => rfl
  | cons d ds ih =>
    unfold load at h ⊢
    split at h
    · rename_i r₁ hr
      have hrest := ih h
      rw [commands_register hr] at hrest
      exact hrest
    · cases h

/-- Commands without faults are accepted by every registry. -/
theorem load_of_faultless (hd : ∀ d ∈ ds, d.fault?.isNone = true) :
    (r.load ds).2.isNone = true := by
  induction ds generalizing r with
  | nil => rfl
  | cons d ds ih =>
    obtain ⟨hfirst, hrest⟩ := List.forall_mem_cons.1 hd
    have hcheck : d.check = .ok () := by
      rw [Definition.check, Option.isNone_iff_eq_none.1 hfirst]
    rw [load, register, hcheck]
    exact ih hrest

end Registry

/-! ## Compositions -/

namespace Composition

variable {r r' : Registry α} {c : Composition α}

/-- A pack takes the place of the families of its roots. -/
noncomputable def overridden (m : KeyMap String (Definition α)) (p : Pack α) :
    KeyMap String (Definition α) :=
  stored (outside m p.roots) p.commands

/-- The commands of a composition: those of the base packs; then, for each override pack, all
families of its roots are left out and its commands put in; then the families of all names that are
switched off are left out. -/
noncomputable def table (c : Composition α) : KeyMap String (Definition α) :=
  outside
    (c.overrides.foldl overridden (c.base.foldl (fun m p => stored m p.commands) KeyMap.empty))
    c.disabled

/-- A composition built with override packs that each come with the names to be removed for it. -/
def buildBy (c : Composition α) (steps : List (List String × Pack α)) :
    Except Fault (Registry α) := do
  let r ← c.base.foldlM (fun r p => loadAll r p.commands) Registry.empty
  let r ← steps.foldlM (fun r s => loadAll (r.removeEach s.1) s.2.commands) r
  .ok (r.removeEach c.disabled)

theorem tables_loadAll (h : r.Consistent) (hr : loadAll r ds = .ok r') :
    r'.Consistent ∧ r'.commands = stored r.commands ds := by
  have hload := Registry.consistent_load h ds
  unfold loadAll at hr
  split at hr
  · rename_i r₁ heq
    cases hr
    have hcommands : (r.load ds).1.commands = stored r.commands ds :=
      Registry.commands_load (by rw [heq])
    rw [heq] at hload hcommands
    exact ⟨hload, hcommands⟩
  · cases hr

theorem tables_override {p : Pack α} (h : r.Consistent) (hr : override r p = .ok r') :
    r'.Consistent ∧ r'.commands = overridden r.commands p := by
  obtain ⟨hr', hcommands⟩ := tables_loadAll (Registry.consistent_removeEach h _) hr
  rw [Registry.commands_removeEach h] at hcommands
  exact ⟨hr', hcommands⟩

/-- What each pack does to the commands, a list of packs does one after the other. -/
theorem tables_foldlM {step : Registry α → Pack α → Except Fault (Registry α)}
    {f : KeyMap String (Definition α) → Pack α → KeyMap String (Definition α)}
    (hstep : ∀ r p r', r.Consistent → step r p = .ok r' →
      r'.Consistent ∧ r'.commands = f r.commands p)
    {ps : List (Pack α)} (h : r.Consistent) (hr : ps.foldlM step r = .ok r') :
    r'.Consistent ∧ r'.commands = ps.foldl f r.commands := by
  induction ps generalizing r with
  | nil =>
    cases hr
    exact ⟨h, rfl⟩
  | cons p ps ih =>
    rw [List.foldlM_cons] at hr
    obtain ⟨r₁, hs, hr⟩ := of_bind_ok hr
    obtain ⟨h₁, hcommands⟩ := hstep r p r₁ h hs
    rw [List.foldl_cons, ← hcommands]
    exact ih h₁ hr

theorem exists_foldlM {step : Registry α → Pack α → Except Fault (Registry α)} {ps : List (Pack α)}
    (hstep : ∀ p ∈ ps, ∀ r, ∃ r', step r p = .ok r') (r : Registry α) :
    ∃ r', ps.foldlM step r = .ok r' := by
  induction ps generalizing r with
  | nil => exact ⟨r, rfl⟩
  | cons p ps ih =>
    obtain ⟨hfirst, hrest⟩ := List.forall_mem_cons.1 hstep
    obtain ⟨r₁, hr⟩ := hfirst r
    rw [List.foldlM_cons, hr]
    exact ih hrest r₁

/-- A composition of commands without faults can be built. -/
theorem exists_build (hb : ∀ p ∈ c.base, ∀ d ∈ p.commands, d.fault?.isNone = true)
    (ho : ∀ p ∈ c.overrides, ∀ d ∈ p.commands, d.fault?.isNone = true) :
    ∃ r, c.build = .ok r := by
  have hload : ∀ (r : Registry α) (ds : List (Definition α)),
      (∀ d ∈ ds, d.fault?.isNone = true) → ∃ r', loadAll r ds = .ok r' :=
    fun r ds hd => ⟨_, loadAll_of_isNone (Registry.load_of_faultless hd)⟩
  obtain ⟨r₁, h₁⟩ := exists_foldlM (fun p hp r => hload r p.commands (hb p hp)) Registry.empty
  have hoverride : ∀ p ∈ c.overrides, ∀ r, ∃ r', override r p = .ok r' :=
    fun p hp r => hload (r.removeEach p.roots) p.commands (ho p hp)
  obtain ⟨r₂, h₂⟩ := exists_foldlM hoverride r₁
  exact ⟨_, build_of_ok h₁ h₂⟩

/-- A registry that is built has the commands of its composition. -/
theorem tables_build (hr : c.build = .ok r) : r.Consistent ∧ r.commands = c.table := by
  obtain ⟨r₁, h₁, hr⟩ := of_bind_ok hr
  obtain ⟨r₂, h₂, hr⟩ := of_bind_ok hr
  cases hr
  obtain ⟨hc₁, hcommands₁⟩ := tables_foldlM
    (f := fun m p => stored m p.commands) (fun r p r' h hr => tables_loadAll h hr)
    Registry.consistent_empty h₁
  obtain ⟨hc₂, hcommands₂⟩ := tables_foldlM (fun r p r' h hr => tables_override h hr) hc₁ h₂
  refine ⟨Registry.consistent_removeEach hc₂ _, ?_⟩
  rw [Registry.commands_removeEach hc₂, hcommands₂, hcommands₁]
  rfl

/-- A command of a table in which packs have been put is one of theirs, or was there before. -/
theorem mem_of_find?_overridden {qs : List (Pack α)}
    (h : (qs.foldl overridden m).find? k = some d) :
    (∃ q ∈ qs, d ∈ q.commands) ∨ m.find? k = some d := by
  induction qs generalizing m with
  | nil => exact .inr h
  | cons q qs ih =>
    rcases ih h with ⟨q', hq', hd⟩ | h
    · exact .inl ⟨q', List.mem_cons_of_mem _ hq', hd⟩
    · rcases mem_of_find?_stored h with hd | h
      · exact .inl ⟨q, List.mem_cons_self, hd⟩
      · exact .inr (find?_outside.1 h).1

/-- The commands that are scoped under a root of a pack are those of the pack, or come later. -/
theorem mem_of_find?_scoped {ps qs : List (Pack α)} {p : Pack α} {root : String}
    (hroot : root ∈ p.roots) (hp : d.parentKey? = some (Definition.keyOf root))
    (h : ((ps ++ p :: qs).foldl overridden m).find? d.key = some d) :
    ∃ q ∈ p :: qs, d ∈ q.commands := by
  rw [List.foldl_append, List.foldl_cons] at h
  rcases mem_of_find?_overridden h with ⟨q, hq, hd⟩ | h
  · exact ⟨q, List.mem_cons_of_mem _ hq, hd⟩
  · rcases mem_of_find?_stored h with hd | h
    · exact ⟨p, List.mem_cons_self, hd⟩
    · -- one that was there before was in the family of the root
      obtain ⟨hbefore, hout⟩ := find?_outside.1 h
      exact absurd ⟨_, List.mem_map_of_mem hroot, .child hbefore hp⟩ hout

/-- The names that come with the packs may be put in another order. -/
theorem foldlM_steps {steps : List (List String × Pack α)}
    (hsteps : ∀ s ∈ steps, ∀ n, n ∈ s.1 ↔ n ∈ s.2.roots) (h : r.Consistent) :
    steps.foldlM (fun r s => loadAll (r.removeEach s.1) s.2.commands) r =
      (steps.map Prod.snd).foldlM override r := by
  induction steps generalizing r with
  | nil => rfl
  | cons s steps ih =>
    obtain ⟨hfirst, hrest⟩ := List.forall_mem_cons.1 hsteps
    rw [List.foldlM_cons, List.map_cons, List.foldlM_cons, Registry.removeEach_congr h hfirst]
    cases hr : override r s.2 with
    | error fault =>
      unfold override at hr
      rw [hr]
      rfl
    | ok r₁ =>
      have h₁ := (tables_override h hr).1
      unfold override at hr
      rw [hr]
      exact ih hrest h₁

/-- What the registry of a composition is. -/
structure Composed (c : Composition α) (r : Registry α) : Prop where
  /-- It has the commands of the composition. -/
  commands : r.commands = c.table
  /-- Its scopes are those of the commands. -/
  consistent : r.Consistent
  /-- What is scoped under a root of an override pack comes from this pack or from a later one. -/
  underRoots : ∀ ps p qs, c.overrides = ps ++ p :: qs → ∀ root ∈ p.roots, ∀ d ∈ r.list,
    d.parentKey? = some (Definition.keyOf root) → ∃ q ∈ p :: qs, d ∈ q.commands
  /-- The names that are switched off may be put in another order, and repeated. -/
  disabled : ∀ names, (∀ n, n ∈ names ↔ n ∈ c.disabled) →
    ({ c with disabled := names } : Composition α).build = .ok r
  /-- So may the roots that are removed for each pack. -/
  roots : ∀ steps : List (List String × Pack α), steps.map Prod.snd = c.overrides →
    (∀ s ∈ steps, ∀ n, n ∈ s.1 ↔ n ∈ s.2.roots) → c.buildBy steps = .ok r

/-- **Removals one after the other remove everything at once**: a composition that can be built has
the registry that is described by the families of the packs' roots and of the names switched off. -/
theorem build_composed (hr : c.build = .ok r) : Composed c r := by
  obtain ⟨hconsistent, hcommands⟩ := tables_build hr
  obtain ⟨r₁, h₁, hrest⟩ := of_bind_ok hr
  obtain ⟨r₂, h₂, hlast⟩ := of_bind_ok hrest
  have hc₁ := (tables_foldlM
    (f := fun m p => stored m p.commands) (fun r p r' h hr => tables_loadAll h hr)
    Registry.consistent_empty h₁).1
  have hc₂ := (tables_foldlM (fun r p r' h hr => tables_override h hr) hc₁ h₂).1
  refine ⟨hcommands, hconsistent, ?_, fun names hn => ?_, fun steps hs hn => ?_⟩
  · intro ps p qs hsplit root hroot d hd hp
    have hfind := (Registry.mem_list_iff hconsistent.filed).1 hd
    rw [hcommands, table, hsplit] at hfind
    exact mem_of_find?_scoped hroot hp (find?_outside.1 hfind).1
  · rw [build_of_ok (c := { c with disabled := names }) h₁ h₂, Registry.removeEach_congr hc₂ hn]
    exact hlast
  · unfold buildBy
    rw [h₁]
    change steps.foldlM (fun r s => loadAll (r.removeEach s.1) s.2.commands) r₁ >>=
      (fun r => .ok (r.removeEach c.disabled)) = _
    rw [foldlM_steps hn hc₁, hs, h₂]
    exact hlast

/-- A pack has two roots, one of which is scoped under the other one in the base pack, and a third
command is scoped under that. All of them give way. -/
theorem build_composed_nested :
    let command := fun name parent? => ({ name, action := (), parent? } : Definition Unit)
    let c : Composition Unit :=
      { base := [⟨"base", [command "$frame" none, command "$border" (some "$frame"),
          command "$corner" (some "$Border"), command "$tool" none]⟩]
        overrides := [⟨"slim", [command "$Frame" none, command "$border" none]⟩]
        disabled := ["$TOOL", "$missing"] }
    ∃ r, c.build = .ok r ∧ Composed c r ∧ ∀ d ∈ r.list, d.parentKey? ≠ some "$border" := by
  intro command c
  obtain ⟨r, hr⟩ : ∃ r, c.build = .ok r := exists_build (by decide +kernel) (by decide +kernel)
  have hc := build_composed hr
  refine ⟨r, hr, hc, fun d hd hp => ?_⟩
  have hroot : "$border" ∈ (⟨"slim", [command "$Frame" none, command "$border" none]⟩ :
    Pack Unit).roots := by decide
  obtain ⟨q, hq, hmem⟩ := hc.underRoots [] _ [] rfl "$border" hroot d hd hp
  rw [List.mem_singleton.1 hq] at hmem
  have hnone : ∀ e ∈ [command "$Frame" none, command "$border" none], e.parentKey? = none := by
    decide
  cases hp.symm.trans (hnone d hmem)

end Composition

end CanvasScript.Command
