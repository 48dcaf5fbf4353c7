import CanvasScript.Proofs.Command.Registry

/-!
# The two tables of a registry

A registry keeps its commands in one table and the keys of every scope in a second one. Each
operation writes both; here they are shown to agree after any number of operations.

* `Scopes.Holds`: the second table has a key under a parent key.
* `Registry.Consistent`: every command is filed under its key and passes its check, the scopes are
  those of the commands, and no scope is empty.
* `Registry.ConsistentBut`: the same while a family is being removed. The scope of a command is
  dropped before the commands in it, so the commands that are still to go may be missing from the
  scopes.
* `Operation`, `Registry.after`, `Registry.afterAll`: what can be done to a registry, and the
  registry afterwards. An operation that fails leaves what it has done up to then.

Results:
* `Scopes.holds_attach`, `Scopes.holds_detach`, `Registry.holds_rescope`, `Registry.holds_eraseKey`:
  each write of the second table, by what it holds afterwards.
* `Registry.Consistent.ext`: with both tables in agreement, the first one determines the second.
* `Registry.consistent_register`, `Registry.consistent_unregister`,
  `Registry.consistent_removeFamily`, `Registry.consistent_load`: each operation keeps the tables
  in agreement, so every sequence of them does (`Registry.consistent_afterAll`).
* `Registry.childrenOf_eq_filter`: in agreement, the scope of a parent is what a search of all
  commands would find.
* `Registry.tables_afterAll`: all of it for every registry that operations lead to.
-/

namespace CanvasScript.Command

variable {α : Type}

/-! ## The table of scopes -/

namespace Scopes

variable {s : Scopes} {p q k key : String}

/-- The table has `key` under `parent`. -/
def Holds (s : Scopes) (parent key : String) : Prop :=
  ∃ keys, s.find? parent = some keys ∧ keys.contains key = true

/-- No scope of the table is empty. -/
def Occupied (s : Scopes) : Prop :=
  ∀ parent keys, s.find? parent = some keys → keys.isEmpty = false

theorem not_holds_of_find? (h : s.find? p = none) : ¬ s.Holds p k := by
  rintro ⟨keys, hk, -⟩
  rw [h] at hk
  cases hk

theorem holds_iff_of_find? {keys : KeyMap String Unit} (h : s.find? p = some keys) :
    s.Holds p k ↔ keys.contains k = true := by
  constructor
  · rintro ⟨keys', hk, hc⟩
    rw [h] at hk
    cases hk
    exact hc
  · intro hc
    exact ⟨keys, h, hc⟩

theorem mem_keys_iff : k ∈ ((s.find? p).getD KeyMap.empty).keys ↔ s.Holds p k := by
  have hkeys : ∀ keys : KeyMap String Unit, k ∈ keys.keys ↔ keys.contains k = true := by
    intro keys
    unfold KeyMap.contains
    rw [Option.isSome_iff_exists, KeyMap.keys, List.mem_map]
    constructor
    · rintro ⟨⟨k', u⟩, hmem, rfl⟩
      exact ⟨u, KeyMap.mem_toList_iff.1 hmem⟩
    · rintro ⟨u, hu⟩
      exact ⟨(k, u), KeyMap.mem_toList_iff.2 hu, rfl⟩
  rw [hkeys]
  cases hs : s.find? p with
  | none => simp [KeyMap.contains, KeyMap.find?_empty, not_holds_of_find? hs]
  | some keys => simp [holds_iff_of_find? hs]

theorem holds_insert {keys : KeyMap String Unit} :
    Holds (KeyMap.insert s q keys) p k ↔ if p = q then keys.contains k = true else s.Holds p k := by
  unfold Holds
  by_cases hpq : p = q <;> simp [KeyMap.find?_insert, hpq]

theorem holds_erase : Holds (KeyMap.erase s q) p k ↔ p ≠ q ∧ s.Holds p k := by
  unfold Holds
  by_cases hpq : p = q <;> simp [KeyMap.find?_erase, hpq]

theorem holds_attach : (s.attach q key).Holds p k ↔ (p = q ∧ k = key) ∨ s.Holds p k := by
  unfold attach
  rw [holds_insert]
  by_cases hpq : p = q
  · subst hpq
    cases hs : s.find? p with
    | none =>
      by_cases hk : k = key <;>
        simp [KeyMap.contains, KeyMap.find?_insert, KeyMap.find?_empty, hk, not_holds_of_find? hs]
    | some keys =>
      rw [holds_iff_of_find? hs]
      by_cases hk : k = key <;>
        simp [KeyMap.contains, KeyMap.find?_insert, hk]
  · simp [hpq]

theorem holds_detach : (s.detach q key).Holds p k ↔ s.Holds p k ∧ ¬ (p = q ∧ k = key) := by
  unfold detach
  split
  · rename_i hs
    constructor
    · intro h
      refine ⟨h, ?_⟩
      rintro ⟨rfl, -⟩
      exact not_holds_of_find? hs h
    · exact And.left
  · rename_i keys hs
    have hrest : (keys.erase key).contains k = true ↔ keys.contains k = true ∧ k ≠ key := by
      by_cases hk : k = key <;> simp [KeyMap.contains, KeyMap.find?_erase, hk]
    dsimp only
    by_cases hpq : p = q
    · subst hpq
      rw [holds_iff_of_find? hs]
      split
      · -- the last key of the scope went, and with it the scope
        rename_i hempty
        have hnone : ¬ (keys.erase key).contains k = true := by
          simp [KeyMap.contains, KeyMap.find?_eq_none_of_isEmpty hempty]
        rw [hrest] at hnone
        simpa [holds_erase] using hnone
      · simp [holds_insert, hrest]
    · split
      · simp [holds_erase, hpq]
      · simp [holds_insert, hpq]

theorem occupied_empty : Occupied KeyMap.empty := by
  intro parent keys h
  cases h

theorem occupied_erase (h : s.Occupied) (q : String) : Occupied (s.erase q) := by
  intro parent keys hk
  rw [KeyMap.find?_erase] at hk
  split at hk
  · cases hk
  · exact h parent keys hk

theorem occupied_insert (h : s.Occupied) (q : String) {keys : KeyMap String Unit}
    (hkeys : keys.isEmpty = false) : Occupied (s.insert q keys) := by
  intro parent keys' hk
  rw [KeyMap.find?_insert] at hk
  split at hk
  · cases hk
    exact hkeys
  · exact h parent keys' hk

theorem occupied_attach (h : s.Occupied) (q key : String) : Occupied (s.attach q key) := by
  refine occupied_insert h q (Bool.eq_false_iff.2 ?_)
  intro hempty
  have hnone := KeyMap.find?_eq_none_of_isEmpty hempty key
  simp [KeyMap.find?_insert] at hnone

theorem occupied_detach (h : s.Occupied) (q key : String) : Occupied (s.detach q key) := by
  unfold detach
  split
  · exact h
  · dsimp only
    split
    · exact occupied_erase h q
    · rename_i hrest
      exact occupied_insert h q (Bool.eq_false_iff.2 hrest)

/-- A scope that is not empty has a key. -/
theorem exists_holds (h : s.Occupied) {keys : KeyMap String Unit} (hk : s.find? p = some keys) :
    ∃ k, s.Holds p k := by
  have hkeys := h p keys hk
  unfold KeyMap.isEmpty at hkeys
  cases he : keys.entries with
  | nil => simp [he] at hkeys
  | cons e es =>
    have hmem : (e.1, ()) ∈ keys.toList := by
      unfold KeyMap.toList
      rw [he]
      exact List.mem_cons_self
    refine ⟨e.1, keys, hk, ?_⟩
    rw [KeyMap.contains, KeyMap.mem_toList_iff.1 hmem]
    rfl

/-- Tables without empty scopes are determined by what they hold. -/
theorem ext {t : Scopes} (hs : s.Occupied) (ht : t.Occupied)
    (h : ∀ p k, s.Holds p k ↔ t.Holds p k) : s = t := by
  refine KeyMap.ext fun p => ?_
  cases hsp : s.find? p with
  | none =>
    cases htp : t.find? p with
    | none => rfl
    | some keys =>
      obtain ⟨k, hk⟩ := exists_holds ht htp
      exact absurd ((h p k).2 hk) (not_holds_of_find? hsp)
  | some keys =>
    cases htp : t.find? p with
    | none =>
      obtain ⟨k, hk⟩ := exists_holds hs hsp
      exact absurd ((h p k).1 hk) (not_holds_of_find? htp)
    | some keys' =>
      congr 1
      refine KeyMap.ext fun k => ?_
      have hk := h p k
      rw [holds_iff_of_find? hsp, holds_iff_of_find? htp, KeyMap.contains, KeyMap.contains] at hk
      cases hf : keys.find? k <;> cases hf' : keys'.find? k <;> simp_all

end Scopes

namespace Registry

variable {r r' : Registry α} {p k key : String}

/-- The scopes after a command under `key` has changed its parent, where the table had `key` under
the parent before and nowhere else. -/
theorem holds_rescope {s : Scopes} {before? after? : Option String}
    (h : ∀ q, s.Holds q key ↔ before? = some q) :
    (rescope s key before? after?).Holds p k ↔
      if k = key then after? = some p else s.Holds p k := by
  have hkey : k = key → (s.Holds p k ↔ before? = some p) := by
    rintro rfl
    exact h p
  unfold rescope
  rcases before? with _ | before <;> rcases after? with _ | after
  · by_cases hk : k = key <;> simp [hk, h]
  · by_cases hk : k = key <;> simp [hk, h, Scopes.holds_attach, eq_comm]
  · by_cases hk : k = key
    · simp [hk, h, Scopes.holds_detach, eq_comm]
    · simp [hk, Scopes.holds_detach]
  · by_cases hab : before = after
    · by_cases hk : k = key <;> simp [hk, h, hab, Scopes.holds_attach, eq_comm]
    · simp only [Option.some.injEq, hab, if_false, Scopes.holds_detach, Scopes.holds_attach]
      grind

theorem occupied_rescope {s : Scopes} (h : s.Occupied) (key : String)
    (before? after? : Option String) : (rescope s key before? after?).Occupied := by
  unfold rescope
  rcases after? with _ | after
  · rcases before? with _ | before
    · exact h
    · dsimp only
      split
      · exact h
      · exact Scopes.occupied_detach h before key
  · have hattached := Scopes.occupied_attach h after key
    rcases before? with _ | before
    · exact hattached
    · dsimp only
      split
      · exact hattached
      · exact Scopes.occupied_detach hattached before key

/-! ## Agreement of the tables -/

/-- The scopes of a registry are those of its commands, all of which are in order. -/
structure Consistent (r : Registry α) : Prop where
  filed : AllFiled (fun d => d.check = .ok ()) r.commands
  inScope : ∀ parent key,
    r.scopes.Holds parent key ↔
      ∃ d, r.commands.find? key = some d ∧ d.parentKey? = some parent
  occupied : r.scopes.Occupied

/-- The same, but that commands of the keys in `pending` may be missing from the scopes. -/
structure ConsistentBut (r : Registry α) (pending : List String) : Prop where
  filed : AllFiled (fun d => d.check = .ok ()) r.commands
  sound : ∀ parent key, r.scopes.Holds parent key →
    ∃ d, r.commands.find? key = some d ∧ d.parentKey? = some parent
  complete : ∀ parent key d, r.commands.find? key = some d → d.parentKey? = some parent →
    r.scopes.Holds parent key ∨ key ∈ pending
  occupied : r.scopes.Occupied

theorem Consistent.but (h : r.Consistent) (pending : List String) : r.ConsistentBut pending where
  filed := h.filed
  sound parent key hs := (h.inScope parent key).1 hs
  complete parent key d hd hp := Or.inl ((h.inScope parent key).2 ⟨d, hd, hp⟩)
  occupied := h.occupied

theorem ConsistentBut.consistent (h : r.ConsistentBut []) : r.Consistent where
  filed := h.filed
  inScope parent key := by
    constructor
    · exact h.sound parent key
    · rintro ⟨d, hd, hp⟩
      rcases h.complete parent key d hd hp with hs | hs
      · exact hs
      · cases hs
  occupied := h.occupied

theorem consistent_empty : (empty : Registry α).Consistent where
  filed := allFiled_empty
  inScope parent key := by
    constructor
    · rintro ⟨keys, hk, -⟩
      cases hk
    · rintro ⟨d, hd, -⟩
      cases hd
  occupied := Scopes.occupied_empty

/-- Registries in agreement are determined by their commands. -/
theorem Consistent.ext (h : r.Consistent) (h' : r'.Consistent) (hc : r.commands = r'.commands) :
    r = r' := by
  have hs : r.scopes = r'.scopes := by
    refine Scopes.ext h.occupied h'.occupied fun p k => ?_
    rw [h.inScope, h'.inScope, hc]
  obtain ⟨commands, scopes⟩ := r
  obtain ⟨commands', scopes'⟩ := r'
  cases hc
  cases hs
  rfl

/-! ## Adding a command -/

theorem consistent_register (h : r.Consistent) {d : Definition α} (hr : r.register d = .ok r') :
    r'.Consistent := by
  obtain ⟨u, hcheck, hr⟩ := of_bind_ok hr
  cases hr
  have hbefore : ∀ q, r.scopes.Holds q d.key ↔
      (r.commands.find? d.key).bind (·.parentKey?) = some q := by
    intro q
    rw [h.inScope, Option.bind_eq_some_iff]
  refine ⟨allFiled_insert h.filed hcheck, fun parent key => ?_,
    occupied_rescope h.occupied _ _ _⟩
  rw [holds_rescope hbefore]
  by_cases hk : key = d.key
  · simp [hk, KeyMap.find?_insert]
  · simp [hk, KeyMap.find?_insert, h.inScope]

theorem consistent_load (h : r.Consistent) (ds : List (Definition α)) :
    (r.load ds).1.Consistent := by
  induction ds generalizing r with
  | nil => exact h
  | cons d ds ih =>
    unfold load
    split
    · rename_i hr
      exact ih (consistent_register h hr)
    · exact h

/-! ## Removing commands -/

/-- With the scope of a key dropped, its commands are the only ones that may be missing from the
scopes beyond those that were. -/
theorem ConsistentBut.dropScope {pending : List String} (h : r.ConsistentBut pending)
    {children : KeyMap String Unit} (hk : r.scopes.find? key = some children) :
    (r.dropScope key).ConsistentBut (children.keys.reverse ++ pending) where
  filed := h.filed
  sound parent k hs := h.sound parent k (Scopes.holds_erase.1 hs).2
  complete parent k d hd hp := by
    rcases h.complete parent k d hd hp with hs | hs
    · by_cases hpk : parent = key
      · subst hpk
        rw [← Scopes.mem_keys_iff, hk] at hs
        exact Or.inr (List.mem_append_left _ (List.mem_reverse.2 hs))
      · exact Or.inl (Scopes.holds_erase.2 ⟨hpk, hs⟩)
    · exact Or.inr (List.mem_append_right _ hs)
  occupied := Scopes.occupied_erase h.occupied key

theorem commands_eraseKey (r : Registry α) (key : String) :
    (r.eraseKey key).2.commands = r.commands.erase key := by
  unfold eraseKey
  split
  · rename_i h
    exact (KeyMap.erase_of_find?_eq_none h).symm
  · rfl

/-- The scopes have lost what the command is scoped under, and nothing else. -/
theorem holds_eraseKey {d : Definition α} (hd : r.commands.find? key = some d) {p k : String} :
    (r.eraseKey key).2.scopes.Holds p k ↔
      r.scopes.Holds p k ∧ ¬ (d.parentKey? = some p ∧ k = key) := by
  unfold eraseKey
  rw [hd]
  dsimp only
  split
  · rename_i hparent
    simp [Scopes.holds_detach, hparent, eq_comm]
  · rename_i hparent
    simp [hparent]

theorem occupied_eraseKey (h : r.scopes.Occupied) (key : String) :
    (r.eraseKey key).2.scopes.Occupied := by
  unfold eraseKey
  split
  · exact h
  · dsimp only
    split
    · exact Scopes.occupied_detach h _ key
    · exact h

/-- A command that has been taken out is no longer to go. -/
theorem ConsistentBut.eraseKey {pending pending' : List String} (h : r.ConsistentBut pending)
    (hsub : ∀ k ∈ pending, k ≠ key → k ∈ pending') :
    (r.eraseKey key).2.ConsistentBut pending' := by
  refine ⟨allFiled_eraseKey h.filed key, fun parent k hs => ?_, fun parent k d' hd' hp => ?_,
    occupied_eraseKey h.occupied key⟩
  · rw [commands_eraseKey]
    cases hd : r.commands.find? key with
    | none =>
      rw [KeyMap.erase_of_find?_eq_none hd]
      refine h.sound parent k ?_
      rwa [Registry.eraseKey, hd] at hs
    | some d =>
      obtain ⟨hs, hne⟩ := (holds_eraseKey hd).1 hs
      obtain ⟨d', hd', hp⟩ := h.sound parent k hs
      refine ⟨d', KeyMap.find?_erase_eq_some_iff.2 ⟨?_, hd'⟩, hp⟩
      rintro rfl
      cases hd.symm.trans hd'
      exact hne ⟨hp, rfl⟩
  · rw [commands_eraseKey] at hd'
    obtain ⟨hk, hd'⟩ := KeyMap.find?_erase_eq_some_iff.1 hd'
    rcases h.complete parent k d' hd' hp with hs | hs
    · refine .inl ?_
      cases hd : r.commands.find? key with
      | none => rwa [Registry.eraseKey, hd]
      | some d => exact (holds_eraseKey hd).2 ⟨hs, fun hc => hk hc.2⟩
    · exact .inr (hsub k hs hk)

theorem consistent_unregister (h : r.Consistent) (name : String) :
    (r.unregister name).2.Consistent :=
  ((h.but []).eraseKey fun _ hk _ => hk).consistent

/-- Once the families of all pending keys have been removed, nothing is missing any more. -/
theorem consistent_removeFamilies {pending : List String} (h : r.ConsistentBut pending) :
    (r.removeFamilies pending).2.Consistent := by
  fun_induction removeFamilies r pending with
  | case1 => exact h.consistent
  | case2 r key pending children hk removed rest ih =>
    refine ih ((h.dropScope hk).eraseKey fun k hmem hne => ?_)
    grind
  | case3 r key pending hk removed rest ih =>
    refine ih (h.eraseKey fun k hmem hne => ?_)
    exact List.mem_of_ne_of_mem hne hmem

theorem consistent_removeFamily (h : r.Consistent) (name : String) :
    (r.removeFamily name).2.Consistent :=
  consistent_removeFamilies (h.but _)

end Registry

/-! ## Sequences of operations -/

/-- What can be done to a registry. -/
inductive Operation (α : Type) where
  | register (d : Definition α)
  | unregister (name : String)
  | removeFamily (name : String)
  | load (ds : List (Definition α))
  | loadFiltered (keep : Definition α → Bool) (ds : List (Definition α))
  | loadScoped (parent : String) (ds : List (Definition α))

namespace Registry

/-- The registry after an operation, whether it succeeds or fails. -/
def after (r : Registry α) : Operation α → Registry α
  | .register d =>
    match r.register d with
    | .ok r => r
    | .error _ => r
  | .unregister name => (r.unregister name).2
  | .removeFamily name => (r.removeFamily name).2
  | .load ds => (r.load ds).1
  | .loadFiltered keep ds => (r.load (ds.filter keep)).1
  | .loadScoped parent ds => (r.load (scopedUnder parent ds)).1

/-- The registry after operations, one after the other. -/
def afterAll (r : Registry α) (ops : List (Operation α)) : Registry α :=
  ops.foldl after r

variable {r : Registry α}

theorem consistent_after (h : r.Consistent) (op : Operation α) : (r.after op).Consistent := by
  cases op with
  | register d =>
    unfold after
    dsimp only
    split
    · rename_i hr
      exact consistent_register h hr
    · exact h
  | unregister name => exact consistent_unregister h name
  | removeFamily name => exact consistent_removeFamily h name
  | load ds => exact consistent_load h ds
  | loadFiltered keep ds => exact consistent_load h _
  | loadScoped parent ds => exact consistent_load h _

theorem Consistent.afterAll (h : r.Consistent) (ops : List (Operation α)) :
    (r.afterAll ops).Consistent := by
  induction ops generalizing r with
  | nil => exact h
  | cons op ops ih => exact ih (consistent_after h op)

theorem consistent_afterAll (ops : List (Operation α)) :
    ((empty : Registry α).afterAll ops).Consistent :=
  consistent_empty.afterAll ops

/-! ## The commands of a scope -/

/-- Commands in key order, without repetition. -/
def InOrder (ds : List (Definition α)) : Prop :=
  ds.Pairwise fun a b => compare a.key b.key = .lt

/-- Commands in key order are determined by which they are. -/
theorem eq_of_inOrder {ds es : List (Definition α)} (hd : InOrder ds) (he : InOrder es)
    (h : ∀ d, d ∈ ds ↔ d ∈ es) : ds = es := by
  have hpairs : ds.map (fun d => (d.key, d)) = es.map (fun d => (d.key, d)) := by
    refine KeyMap.entries_eq_of_mem (List.pairwise_map.2 hd) (List.pairwise_map.2 he) ?_
    intro e
    simp only [List.mem_map, h]
  simpa [Function.comp_def] using congrArg (List.map Prod.snd) hpairs

variable {P : Definition α → Prop}

theorem inOrder_list (h : AllFiled P r.commands) : InOrder r.list := by
  refine List.pairwise_map.2 (r.commands.ordered.imp_of_mem fun {a b} ha hb hlt => ?_)
  rwa [(h a.1 a.2 (KeyMap.mem_toList_iff.1 ha)).2, (h b.1 b.2 (KeyMap.mem_toList_iff.1 hb)).2]

theorem mem_list_iff (h : AllFiled P r.commands) {d : Definition α} :
    d ∈ r.list ↔ r.commands.find? d.key = some d := by
  constructor
  · intro hd
    obtain ⟨⟨k, d'⟩, hmem, rfl⟩ := List.mem_map.1 hd
    have hk := KeyMap.mem_toList_iff.1 hmem
    rwa [(h k d' hk).2]
  · intro hd
    exact List.mem_map.2 ⟨(d.key, d), KeyMap.mem_toList_iff.2 hd, rfl⟩

theorem mem_childrenOf_iff (h : r.Consistent) {parent : String} {d : Definition α} :
    d ∈ r.childrenOf parent ↔
      d ∈ r.list ∧ d.parentKey? = some (Definition.keyOf parent) := by
  unfold childrenOf
  rw [List.mem_filterMap, mem_list_iff h.filed]
  simp only [Scopes.mem_keys_iff, h.inScope]
  constructor
  · rintro ⟨k, ⟨d', hd', hp⟩, hd⟩
    rw [hd] at hd'
    cases hd'
    rw [(h.filed k d hd).2]
    exact ⟨hd, hp⟩
  · rintro ⟨hd, hp⟩
    exact ⟨d.key, ⟨d, hd, hp⟩, hd⟩

theorem inOrder_childrenOf (h : AllFiled P r.commands) (parent : String) :
    InOrder (r.childrenOf parent) := by
  unfold childrenOf
  generalize (r.scopes.find? (Definition.keyOf parent)).getD KeyMap.empty = keys
  have hkeys : keys.keys.Pairwise fun k k' => compare k k' = .lt :=
    List.pairwise_map.2 keys.ordered
  refine List.Pairwise.filterMap _ (fun k k' hlt d hd d' hd' => ?_) hkeys
  rwa [(h k d hd).2, (h k' d' hd').2]

/-- The scope of a parent is what a search of all commands finds. -/
theorem childrenOf_eq_filter (h : r.Consistent) (parent : String) :
    r.childrenOf parent =
      r.list.filter (·.parentKey? == some (Definition.keyOf parent)) := by
  refine eq_of_inOrder (inOrder_childrenOf h.filed parent)
    ((inOrder_list h.filed).sublist List.filter_sublist) fun d => ?_
  rw [mem_childrenOf_iff h, List.mem_filter, beq_iff_eq]

/-- **The tables agree.** After any sequence of operations on an empty registry, whether they
succeed or fail: every command is filed under the key of its name and passes its check; a key is in
the scope of a parent key exactly if the command filed under it has that parent; no scope is empty.
Hence the commands of a scope are all those with that parent, in key order and each once. -/
theorem tables_afterAll (ops : List (Operation α)) :
    ((empty : Registry α).afterAll ops).Consistent ∧
      ∀ parent,
        ((empty : Registry α).afterAll ops).childrenOf parent =
            ((empty : Registry α).afterAll ops).list.filter
              (·.parentKey? == some (Definition.keyOf parent)) ∧
          InOrder (((empty : Registry α).afterAll ops).childrenOf parent) := by
  have h := consistent_afterAll ops
  exact ⟨h, fun parent => ⟨childrenOf_eq_filter h parent, inOrder_childrenOf h.filed parent⟩⟩

end Registry

end CanvasScript.Command
