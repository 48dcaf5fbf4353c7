import CanvasScript.Command.Pack
import CanvasScript.Proofs.Data.KeyMap
import CanvasScript.Proofs.Fault

/-!
# What a registry holds

A registry files every command under the key of its name, and holds nothing but what it was given.

* `AllFiled`: every command of a map is filed under its own key and has a property.

Results:
* `Registry.allFiled_register`, `Registry.allFiled_removeFamilies`: registering and removing keep
  this.
* `Composition.allFiled_build`: a registry that is built holds only commands of its packs.
-/

namespace CanvasScript.Command

variable {α : Type} {P : Definition α → Prop}

/-- Every command of the map is filed under its own key and has the property. -/
def AllFiled (P : Definition α → Prop) (m : KeyMap String (Definition α)) : Prop :=
  ∀ k d, m.find? k = some d → P d ∧ d.key = k

/-! ## Maps of commands -/

theorem allFiled_empty : AllFiled P KeyMap.empty :=
  keptUnder_empty

theorem allFiled_insert {m : KeyMap String (Definition α)} (h : AllFiled P m) {d : Definition α}
    (hd : P d) : AllFiled P (m.insert d.key d) := by
  have hkept : KeptUnder Definition.key P m := h
  exact hkept.insert hd

theorem allFiled_erase {m : KeyMap String (Definition α)} (h : AllFiled P m) (key : String) :
    AllFiled P (m.erase key) :=
  KeptUnder.erase h key

/-- Commands that are filed one after the other, each under its own key. -/
theorem allFiled_insertAll {m : KeyMap String (Definition α)} (h : AllFiled P m)
    {ds : List (Definition α)} (hd : ∀ d ∈ ds, P d) :
    AllFiled P (m.insertAll (ds.map fun d => (d.key, d))) := by
  induction ds generalizing m with
  | nil => exact h
  | cons d ds ih =>
    obtain ⟨hfirst, hrest⟩ := List.forall_mem_cons.1 hd
    exact ih (allFiled_insert h hfirst) hrest

theorem of_mem_values {m : KeyMap String (Definition α)} (h : AllFiled P m) {d : Definition α}
    (hd : d ∈ m.values) : P d := by
  obtain ⟨⟨k, d'⟩, hmem, rfl⟩ := List.mem_map.1 hd
  exact (h k d' (KeyMap.mem_toList_iff.1 hmem)).1

/-! ## Registries -/

namespace Registry

variable {r : Registry α}

theorem allFiled_register (h : AllFiled P r.commands) {d : Definition α} (hd : P d)
    {r' : Registry α} (hr : r.register d = .ok r') : AllFiled P r'.commands := by
  obtain ⟨u, -, hr⟩ := of_bind_ok hr
  cases hr
  exact allFiled_insert h hd

theorem allFiled_eraseKey (h : AllFiled P r.commands) (key : String) :
    AllFiled P (r.eraseKey key).2.commands := by
  unfold eraseKey
  split
  · exact h
  · exact allFiled_erase h key

theorem allFiled_removeFamilies (h : AllFiled P r.commands) (pending : List String) :
    AllFiled P (r.removeFamilies pending).2.commands := by
  fun_induction removeFamilies r pending with
  | case1 => exact h
  | case2 r key pending children hk removed rest ih =>
    exact ih (allFiled_eraseKey (r := r.dropScope key) h key)
  | case3 r key pending hk removed rest ih => exact ih (allFiled_eraseKey h key)

theorem allFiled_removeEach (h : AllFiled P r.commands) (names : List String) :
    AllFiled P (r.removeEach names).commands := by
  unfold removeEach
  induction names generalizing r with
  | nil => exact h
  | cons name names ih => exact ih (allFiled_removeFamilies h _)

theorem allFiled_load (h : AllFiled P r.commands) {ds : List (Definition α)}
    (hd : ∀ d ∈ ds, P d) : AllFiled P (r.load ds).1.commands := by
  induction ds generalizing r with
  | nil => exact h
  | cons d ds ih =>
    obtain ⟨hfirst, hrest⟩ := List.forall_mem_cons.1 hd
    unfold load
    split
    · rename_i hr
      exact ih (allFiled_register h hfirst hr) hrest
    · exact h

/-- A command that nothing is scoped under is removed alone. -/
theorem removeFamily_of_unscoped {name : String}
    (hs : r.scopes.find? (Definition.keyOf name) = none) :
    (r.removeFamily name).2 = (r.unregister name).2 := by
  rw [removeFamily, removeFamilies]
  split
  · rename_i hk
    rw [hs] at hk
    cases hk
  · rw [removeFamilies]
    rfl

/-- Where nothing is known of a name, nothing is removed. -/
theorem removeFamily_of_absent {name : String}
    (hs : r.scopes.find? (Definition.keyOf name) = none)
    (hc : r.commands.find? (Definition.keyOf name) = none) : (r.removeFamily name).2 = r := by
  rw [removeFamily_of_unscoped hs]
  simp only [unregister, eraseKey, hc]

/-- Commands that are all accepted are loaded one after the other. -/
theorem load_append {ds : List (Definition α)} (h : (r.load ds).2.isNone = true)
    (es : List (Definition α)) : r.load (ds ++ es) = (r.load ds).1.load es := by
  induction ds generalizing r with
  | nil => rfl
  | cons d ds ih =>
    rw [List.cons_append, load]
    rw [load] at h ⊢
    split
    · rename_i hr
      rw [hr] at h
      exact ih h
    · rename_i hr
      rw [hr] at h
      cases h

theorem of_mem_topLevel (h : AllFiled P r.commands) {d : Definition α} (hd : d ∈ r.topLevel) :
    P d :=
  of_mem_values h (List.mem_filter.1 hd).1

theorem of_mem_childrenOf (h : AllFiled P r.commands) {parent : String} {d : Definition α}
    (hd : d ∈ r.childrenOf parent) : P d := by
  obtain ⟨k, -, hk⟩ := List.mem_filterMap.1 hd
  exact (h k d hk).1

end Registry

/-! ## Compositions -/

namespace Composition

theorem allFiled_loadAll {r r' : Registry α} (h : AllFiled P r.commands)
    {ds : List (Definition α)} (hd : ∀ d ∈ ds, P d) (hr : loadAll r ds = .ok r') :
    AllFiled P r'.commands := by
  have hload := Registry.allFiled_load h hd
  unfold loadAll at hr
  split at hr
  · rename_i heq
    cases hr
    rw [heq] at hload
    exact hload
  · cases hr

theorem loadAll_of_isNone {r : Registry α} {ds : List (Definition α)}
    (h : (r.load ds).2.isNone = true) : loadAll r ds = .ok (r.load ds).1 := by
  unfold loadAll
  split
  · rename_i heq
    rw [heq]
  · rename_i heq
    rw [heq] at h
    cases h

theorem build_of_ok {c : Composition α} {r₁ r₂ : Registry α}
    (hb : c.base.foldlM (fun r p => loadAll r p.commands) Registry.empty = .ok r₁)
    (ho : c.overrides.foldlM override r₁ = .ok r₂) : c.build = .ok (r₂.removeEach c.disabled) := by
  unfold build
  rw [hb]
  change c.overrides.foldlM override r₁ >>= (fun r => .ok (r.removeEach c.disabled)) = _
  rw [ho]
  rfl

/-- What a step keeps for every pack, a whole list of packs keeps. -/
theorem allFiled_foldlM {step : Registry α → Pack α → Except Fault (Registry α)}
    (hstep : ∀ p r r', (∀ d ∈ p.commands, P d) → AllFiled P r.commands → step r p = .ok r' →
      AllFiled P r'.commands)
    {ps : List (Pack α)} (hp : ∀ p ∈ ps, ∀ d ∈ p.commands, P d) {r r' : Registry α}
    (h : AllFiled P r.commands) (hr : ps.foldlM step r = .ok r') : AllFiled P r'.commands := by
  induction ps generalizing r with
  | nil =>
    cases hr
    exact h
  | cons p ps ih =>
    obtain ⟨hfirst, hrest⟩ := List.forall_mem_cons.1 hp
    rw [List.foldlM_cons] at hr
    obtain ⟨r₁, hs, hr⟩ := of_bind_ok hr
    exact ih hrest (hstep p r r₁ hfirst h hs) hr

/-- A registry that is built holds only commands of its packs, each filed under its own key. -/
theorem allFiled_build {c : Composition α} (hb : ∀ p ∈ c.base, ∀ d ∈ p.commands, P d)
    (ho : ∀ p ∈ c.overrides, ∀ d ∈ p.commands, P d) {r : Registry α} (hr : c.build = .ok r) :
    AllFiled P r.commands := by
  obtain ⟨r₁, h₁, hr⟩ := of_bind_ok hr
  obtain ⟨r₂, h₂, hr⟩ := of_bind_ok hr
  cases hr
  have hbase : AllFiled P r₁.commands :=
    allFiled_foldlM (fun p r r' hp h hr => allFiled_loadAll h hp hr) hb allFiled_empty h₁
  have hoverrides : AllFiled P r₂.commands :=
    allFiled_foldlM
      (fun p r r' hp h hr => allFiled_loadAll (Registry.allFiled_removeEach h _) hp hr)
      ho hbase h₂
  exact Registry.allFiled_removeEach hoverrides _

end Composition

end CanvasScript.Command
