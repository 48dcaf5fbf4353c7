import CanvasScript.Proofs.Command.Composition
import CanvasScript.Run.Session
import Mathlib.Data.Fin.SuccPred

/-!
# What a context sees

A tree of contexts grows from a root: contexts are copied, and the scopes of parents are opened in
single contexts. A command that is scoped under another one can be found where its scope is open,
and nowhere else.

* `Growth`: how a tree of contexts has come about, and `Growth.session`, the contexts themselves.
* `Growth.Opened`: the parents whose scopes are open in a context. A copy starts with those of its
  original; what is opened in one of the two later on does not show in the other.
* `Shows`: a command is at the top level, or its scope is open.
* `Sees`: the visible commands of a context are those of a registry that its open scopes show.
* `Screened`: what this means for look-ups in all contexts of a tree.

Results:
* `Session.context_extend_last`, `Session.context_extend_castSucc`, `Session.context_setContext`:
  what becomes of each context of a tree.
* `Sees.root`, `Sees.loadScoped`, `Growth.sees`: every context of a tree sees what its open scopes
  show.
* `Sees.find?_of_lookup?`: names and aliases lead to visible commands only.
* `growth_screened`: all of it for every registry that operations lead to.
-/

namespace CanvasScript.Run

open Command Settings

variable {α : Type} {r : Registry α} {n : Nat}

/-! ## Trees of contexts -/

/-- How a tree of contexts has come about; `n` contexts have been copied from others. -/
inductive Growth : Nat → Type where
  | root : Growth 0
  /-- One more context, a copy of context `i`. -/
  | extend {n : Nat} (g : Growth n) (i : Fin (n + 1)) : Growth (n + 1)
  /-- The commands scoped under a parent made visible in context `i`. -/
  | loadScoped {n : Nat} (g : Growth n) (i : Fin (n + 1)) (parent : String) : Growth n

namespace Growth

/-- The contexts of a tree, over a registry and some settings. -/
def session (r : Registry α) (config : Config) (world : World) : {n : Nat} → Growth n → Session α
  | _, root => Session.start r config world
  | _, extend g i => ((g.session r config world).extend i).2
  | _, loadScoped g i parent => ((g.session r config world).loadScoped i parent).2

/-- The scope of a parent is open in a context. -/
inductive Opened : {n : Nat} → Growth n → Fin (n + 1) → String → Prop
  /-- It has been opened in the context itself. -/
  | own {n : Nat} {g : Growth n} {i : Fin (n + 1)} {parent : String} :
      Opened (g.loadScoped i parent) i parent
  /-- It was open in the context that this one is a copy of when the copy was made. -/
  | copied {n : Nat} {g : Growth n} {i : Fin (n + 1)} {parent : String} (h : Opened g i parent) :
      Opened (g.extend i) (Fin.last (n + 1)) parent
  /-- It stays open when contexts are copied. -/
  | extended {n : Nat} {g : Growth n} {i j : Fin (n + 1)} {parent : String}
      (h : Opened g j parent) : Opened (g.extend i) j.castSucc parent
  /-- It stays open when other scopes are opened. -/
  | loaded {n : Nat} {g : Growth n} {i j : Fin (n + 1)} {other parent : String}
      (h : Opened g j parent) : Opened (g.loadScoped i other) j parent

variable {g : Growth n} {i j : Fin (n + 1)} {parent name : String}

theorem opened_extend_last : Opened (g.extend i) (Fin.last (n + 1)) name ↔ Opened g i name := by
  constructor
  · intro h
    generalize hj : Fin.last (n + 1) = j at h
    cases h with
    | copied h => exact h
    | extended h => exact absurd hj.symm (Fin.castSucc_ne_last _)
  · exact .copied

theorem opened_extend_castSucc : Opened (g.extend i) j.castSucc name ↔ Opened g j name := by
  constructor
  · intro h
    generalize hk : j.castSucc = k at h
    cases h with
    | copied h => exact absurd hk (Fin.castSucc_ne_last _)
    | extended h =>
      cases Fin.castSucc_injective _ hk
      exact h
  · exact .extended

theorem opened_loadScoped :
    Opened (g.loadScoped i parent) j name ↔ (j = i ∧ name = parent) ∨ Opened g j name := by
  constructor
  · intro h
    cases h with
    | own => exact .inl ⟨rfl, rfl⟩
    | loaded h => exact .inr h
  · rintro (⟨rfl, rfl⟩ | h)
    · exact .own
    · exact .loaded h

end Growth

/-! ## The contexts of a session -/

namespace Session

variable {s : Session α}

theorem context_extend_last (hn : s.extensions.length = n) (i : Nat) :
    (s.extend i).2.context (n + 1) = s.context i := by
  simp [extend, context, ← hn, List.getD_eq_getElem?_getD]

theorem context_extend_castSucc (hn : s.extensions.length = n) (i : Nat) (j : Fin (n + 1)) :
    (s.extend i).2.context j = s.context j := by
  obtain ⟨j, hj⟩ := j
  cases j with
  | zero => rfl
  | succ j =>
    have hlt : j < s.extensions.length := by omega
    simp [extend, context, List.getD_eq_getElem?_getD, List.getElem?_append_left hlt]

/-- A change of one context is not seen in the others. -/
theorem context_setContext (hn : s.extensions.length = n) (c : Context α) (i j : Fin (n + 1)) :
    (s.setContext c i).context j = if j = i then c else s.context j := by
  obtain ⟨i, hi⟩ := i
  obtain ⟨j, hj⟩ := j
  simp only [Fin.mk.injEq]
  cases i with
  | zero =>
    cases j with
    | zero => rfl
    | succ j =>
      have hlt : j < s.extensions.length := by omega
      simp [setContext, context, List.getD_eq_getElem?_getD, hlt]
  | succ i =>
    cases j with
    | zero => simp [setContext, context]
    | succ j =>
      have hlt : j < s.extensions.length := by omega
      by_cases hij : j = i
      · subst hij
        simp [setContext, context, List.getD_eq_getElem?_getD, hlt]
      · simp [setContext, context, List.getD_eq_getElem?_getD, hij, Ne.symm hij]

theorem length_extensions_setContext (s : Session α) (c : Context α) (i : Nat) :
    (s.setContext c i).extensions.length = s.extensions.length := by
  cases i with
  | zero => rfl
  | succ i => exact List.length_set

theorem world_setContext (s : Session α) (c : Context α) (i : Nat) :
    (s.setContext c i).world = s.world := by
  cases i <;> rfl

/-- Only the context in which a scope is opened sees more than before. -/
theorem context_loadScoped (hn : s.extensions.length = n) (i j : Fin (n + 1)) (parent : String) :
    (s.loadScoped i parent).2.context j =
      if j = i then (s.context i).loadScoped parent else s.context j :=
  context_setContext hn _ i j

theorem length_extensions_loadScoped (s : Session α) (i : Nat) (parent : String) :
    (s.loadScoped i parent).2.extensions.length = s.extensions.length :=
  length_extensions_setContext s _ i

end Session

theorem Growth.length_extensions (g : Growth n) (r : Registry α) (config : Config)
    (world : World) : (g.session r config world).extensions.length = n := by
  induction g with
  | root => rfl
  | extend g i ih =>
    rw [session, Session.extend, List.length_append, ih]
    rfl
  | loadScoped g i parent ih => rw [session, Session.length_extensions_loadScoped, ih]

/-! ## Visible commands -/

/-- The command is at the top level, or its scope is open. -/
def Shows (opened : String → Prop) (d : Definition α) : Prop :=
  d.parent? = none ∨ ∃ name, opened name ∧ d.parentKey? = some (Definition.keyOf name)

/-- The visible commands are those of a registry that the open scopes show. -/
structure Sees (r : Registry α) (opened : String → Prop) (c : Context α) : Prop where
  registry : c.registry = r
  find?_iff : ∀ k d, c.commands.find? k = some d ↔ r.commands.find? k = some d ∧ Shows opened d

/-- Commands of one registry do not take each other's place. -/
theorem find?_stored_iff {m : KeyMap String (Definition α)} {ds : List (Definition α)}
    {P : Definition α → Prop} (hfiled : AllFiled P r.commands)
    (hm : ∀ k d, m.find? k = some d → r.commands.find? k = some d) (hd : ∀ d ∈ ds, d ∈ r.list)
    (k : String) (d : Definition α) :
    (stored m ds).find? k = some d ↔ (d ∈ ds ∧ d.key = k) ∨ m.find? k = some d := by
  have hlast : ∀ e, ds.reverse.find? (·.key == k) = some e →
      (e ∈ ds ∧ e.key = k) ∧ r.commands.find? k = some e := by
    intro e he
    have hmem := List.mem_reverse.1 (List.mem_of_find?_eq_some he)
    have hkey : e.key = k := by simpa using List.find?_some he
    have hregistered := (Registry.mem_list_iff hfiled).1 (hd e hmem)
    rw [hkey] at hregistered
    exact ⟨⟨hmem, hkey⟩, hregistered⟩
  rw [find?_stored, Option.or_eq_some_iff]
  constructor
  · rintro (h | ⟨-, h⟩)
    · exact .inl (hlast d h).1
    · exact .inr h
  · intro h
    have hregistered : r.commands.find? k = some d := by
      rcases h with ⟨hmem, rfl⟩ | h
      · exact (Registry.mem_list_iff hfiled).1 (hd d hmem)
      · exact hm k d h
    cases hf : ds.reverse.find? (·.key == k) with
    | some e =>
      cases (hlast e hf).2.symm.trans hregistered
      exact .inl rfl
    | none =>
      refine .inr ⟨rfl, ?_⟩
      rcases h with ⟨hmem, hkey⟩ | h
      · exact absurd hkey (by simpa using List.find?_eq_none.1 hf d (List.mem_reverse.2 hmem))
      · exact h

namespace Sees

variable {opened opened' : String → Prop} {c : Context α}

theorem congr (h : Sees r opened c) (ho : ∀ name, opened name ↔ opened' name) :
    Sees r opened' c := by
  refine ⟨h.registry, fun k d => ?_⟩
  simp only [h.find?_iff, Shows, ho]

theorem root (hr : r.Consistent) (config : Config) :
    Sees r (fun _ => False) (Context.root r config) := by
  refine ⟨rfl, fun k d => ?_⟩
  have htop : ∀ d ∈ r.topLevel, d ∈ r.list := fun d hd => (List.mem_filter.1 hd).1
  have hstored : (Context.root r config).commands = stored KeyMap.empty r.topLevel := rfl
  rw [hstored, find?_stored_iff hr.filed (fun k d h => by cases h) htop]
  simp only [KeyMap.find?_empty, reduceCtorEq, or_false, Shows, false_and, exists_false,
    Registry.topLevel, List.mem_filter, Registry.mem_list_iff hr.filed, Option.isNone_iff_eq_none]
  constructor
  · rintro ⟨⟨hd, hp⟩, rfl⟩
    exact ⟨hd, hp⟩
  · rintro ⟨hd, hp⟩
    obtain rfl : d.key = k := (hr.filed k d hd).2
    exact ⟨⟨hd, hp⟩, rfl⟩

/-- Opening a scope shows the commands in it, and hides none. -/
theorem loadScoped (hr : r.Consistent) (h : Sees r opened c) (parent : String) :
    Sees r (fun name => name = parent ∨ opened name) (c.loadScoped parent) := by
  refine ⟨h.registry, fun k d => ?_⟩
  have hscope : ∀ d ∈ r.childrenOf parent, d ∈ r.list :=
    fun d hd => ((Registry.mem_childrenOf_iff hr).1 hd).1
  have hstored : (c.loadScoped parent).commands = stored c.commands (r.childrenOf parent) := by
    rw [← h.registry]
    rfl
  rw [hstored, find?_stored_iff hr.filed (fun k d hd => ((h.find?_iff k d).1 hd).1) hscope,
    h.find?_iff, Registry.mem_childrenOf_iff hr, Registry.mem_list_iff hr.filed]
  constructor
  · rintro (⟨⟨hd, hp⟩, rfl⟩ | ⟨hd, hp | ⟨name, ho, hp⟩⟩)
    · exact ⟨hd, .inr ⟨parent, .inl rfl, hp⟩⟩
    · exact ⟨hd, .inl hp⟩
    · exact ⟨hd, .inr ⟨name, .inr ho, hp⟩⟩
  · rintro ⟨hd, hp | ⟨name, rfl | ho, hp⟩⟩
    · exact .inr ⟨hd, .inl hp⟩
    · obtain rfl : d.key = k := (hr.filed k d hd).2
      exact .inl ⟨⟨hd, hp⟩, rfl⟩
    · exact .inr ⟨hd, .inr ⟨name, ho, hp⟩⟩

/-- Whatever name or alias a command is found under, it is a visible one. -/
theorem find?_of_lookup? (hr : r.Consistent) (h : Sees r opened c) {name : String}
    {d : Definition α} (hd : c.lookup? name = some d) : c.commands.find? d.key = some d := by
  have hkey : ∀ k, c.commands.find? k = some d → c.commands.find? d.key = some d := by
    intro k hk
    rwa [(hr.filed k d ((h.find?_iff k d).1 hk).1).2]
  rw [Context.lookup?, Option.or_eq_some_iff] at hd
  rcases hd with hd | ⟨-, hd⟩
  · exact hkey _ hd
  · obtain ⟨⟨k, d'⟩, hmem, rfl⟩ := List.mem_map.1 (List.mem_of_find?_eq_some hd)
    exact hkey k (KeyMap.mem_toList_iff.1 hmem)

/-- A visible command is found under its name. -/
theorem lookup?_name {d : Definition α} (hd : c.commands.find? d.key = some d) :
    c.lookup? d.name = some d := by
  rw [Context.lookup?, ← Definition.key, hd]
  rfl

end Sees

/-- Every context of a tree sees what its open scopes show. -/
theorem Growth.sees (hr : r.Consistent) (config : Config) (world : World) (g : Growth n)
    (j : Fin (n + 1)) : Sees r (g.Opened j) ((g.session r config world).context j) := by
  induction g with
  | root =>
    obtain rfl : j = 0 := Fin.fin_one_eq_zero j
    exact (Sees.root hr config).congr fun name => ⟨False.elim, nofun⟩
  | @extend n g i ih =>
    have hn := g.length_extensions r config world
    cases j using Fin.lastCases with
    | last =>
      have hcontext := Session.context_extend_last hn i
      refine (hcontext ▸ ih i).congr fun name => opened_extend_last.symm
    | cast j =>
      have hcontext := Session.context_extend_castSucc hn i j
      refine (hcontext ▸ ih j).congr fun name => opened_extend_castSucc.symm
  | loadScoped g i parent ih =>
    have hn := g.length_extensions r config world
    rw [session, Session.context_loadScoped hn]
    split
    · rename_i hj
      subst hj
      refine ((ih j).loadScoped hr parent).congr fun name => ?_
      rw [opened_loadScoped]
      simp
    · rename_i hj
      refine (ih j).congr fun name => ?_
      rw [opened_loadScoped]
      simp [hj]

/-! ## Look-ups -/

/-- What can be found in the contexts of a tree, where these scopes are open in them. -/
structure Screened (r : Registry α) (s : Session α) (opened : Fin (n + 1) → String → Prop) :
    Prop where
  /-- A command is found under its name exactly if it is at the top level or its scope is open. -/
  visible : ∀ (j : Fin (n + 1)), ∀ d ∈ r.list, (s.context j).lookup? d.name = some d ↔
    d.parent? = none ∨ ∃ name, opened j name ∧ d.parentKey? = some (Definition.keyOf name)
  /-- What is found under any name or alias is a command of the registry, and is visible. -/
  found : ∀ (j : Fin (n + 1)) name d, (s.context j).lookup? name = some d →
    d ∈ r.list ∧ (s.context j).lookup? d.name = some d
  /-- A scope that is opened in one context does not show in another one. -/
  apart : ∀ i j : Fin (n + 1), j ≠ i → ∀ parent,
    (s.loadScoped i parent).2.context j = s.context j

/-- **Commands can be found in their scopes only**: in every registry that operations lead to, and
in every tree of contexts, a command that is scoped under another one is found in a context exactly
if its scope has been opened there, or in an ancestor before the copy on the way to the context was
made. -/
theorem growth_screened (ops : List (Operation α)) (config : Config) (world : World)
    (g : Growth n) :
    Screened ((Registry.empty : Registry α).afterAll ops)
      (g.session ((Registry.empty : Registry α).afterAll ops) config world) g.Opened := by
  have hr : ((Registry.empty : Registry α).afterAll ops).Consistent :=
    Registry.consistent_afterAll ops
  generalize (Registry.empty : Registry α).afterAll ops = r at hr
  have hsees := g.sees hr config world
  refine ⟨fun j d hd => ?_, fun j name d hd => ?_, fun i j hne parent => ?_⟩
  · have hregistered := (Registry.mem_list_iff hr.filed).1 hd
    constructor
    · intro hfound
      have hvisible := (hsees j).find?_of_lookup? hr hfound
      exact (((hsees j).find?_iff d.key d).1 hvisible).2
    · intro hshows
      exact Sees.lookup?_name (((hsees j).find?_iff d.key d).2 ⟨hregistered, hshows⟩)
  · have hvisible := (hsees j).find?_of_lookup? hr hd
    have hregistered := (((hsees j).find?_iff d.key d).1 hvisible).1
    exact ⟨(Registry.mem_list_iff hr.filed).2 hregistered, Sees.lookup?_name hvisible⟩
  · rw [Session.context_loadScoped (g.length_extensions r config world), if_neg hne]

/-- A copy made before a scope is opened does not see the commands in it; one made later does. -/
example :
    let command := fun name parent? => ({ name, action := (), parent? } : Definition Unit)
    let r := (Registry.empty.load [command "$frame" none, command "$border" (some "$Frame")]).1
    let ids : Canvas.IdSupply := { stamp := fun _ => 0, digit := fun _ _ => 0 }
    let g := ((Growth.root.extend 0).loadScoped 0 "$FRAME").extend 0
    let s := g.session r {} { files := Storage.FileSystem.ofWorking [], ids }
    [0, 1, 2].map (fun j => ((s.context j).lookup? "$border").isSome) = [true, false, true] := by
  decide +kernel

end CanvasScript.Run
