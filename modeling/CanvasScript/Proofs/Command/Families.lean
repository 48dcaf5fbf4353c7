import CanvasScript.Proofs.Command.Scopes
import Mathlib.Data.List.Nodup
import Mathlib.Logic.Function.Iterate

/-!
# Families of commands

A command goes together with everything scoped under it. The removal keeps a list of keys that are
still to be visited. A turn takes the first of them, drops its scope, puts the keys of that scope in
front of the list, and takes the command of the key out of both tables.

* `Family`: the family of a key in a table of commands. Parents need not be registered, and parent
  links may form a cycle.
* `InFamilies`: the families of several keys together.
* `Removal`, `Removal.turn`: a removal in progress, and one turn of it.
* `Waiting`: the pending keys are those of different commands that no scope has any more. It is why
  no command is visited twice.
* `RemovesFamily`: what the removal of a family has to do.

Results:
* `inFamilies_turn`: a turn takes out one command, and leaves the other ones of the families.
* `waiting_turn`: keys that a turn adds are not pending yet.
* `removes_removeFamilies`: a removal takes out the families of the pending keys and nothing else.
* `turns_removeFamilies`: it ends after as many turns as there are commands to be removed.
* `removeFamily_exact`: the removal of a family, in every registry that operations lead to.
-/

namespace CanvasScript.Command

variable {α : Type} {P : Definition α → Prop} {m : KeyMap String (Definition α)}
  {key k : String} {d e : Definition α}

/-! ## Families -/

/-- The family of a key: the least set of commands that has the command of the key, and every
command that is scoped under the key or under a command of the set. -/
inductive Family (m : KeyMap String (Definition α)) (key : String) : Definition α → Prop
  | root {d : Definition α} (h : m.find? key = some d) : Family m key d
  | child {d : Definition α} (h : m.find? d.key = some d) (hp : d.parentKey? = some key) :
      Family m key d
  | descendant {d e : Definition α} (he : Family m key e) (h : m.find? d.key = some d)
      (hp : d.parentKey? = some e.key) : Family m key d

theorem Family.registered (hm : AllFiled P m) (h : Family m key d) : m.find? d.key = some d := by
  cases h with
  | root h =>
    rw [(hm _ d h).2]
    exact h
  | child h | descendant _ h => exact h

/-- The family of a command of a family is a part of it. -/
theorem Family.trans (hm : AllFiled P m) (he : Family m key e) (h : Family m e.key d) :
    Family m key d := by
  induction h with
  | root h =>
    cases h.symm.trans (he.registered hm)
    exact he
  | child h hp => exact .descendant he h hp
  | descendant _ h hp ih => exact .descendant ih h hp

/-- What is in a family of fewer commands is in the family of all of them. -/
theorem Family.mono {m' : KeyMap String (Definition α)}
    (hsub : ∀ k d, m'.find? k = some d → m.find? k = some d) (h : Family m' key d) :
    Family m key d := by
  induction h with
  | root h => exact .root (hsub _ _ h)
  | child h hp => exact .child (hsub _ _ h) hp
  | descendant _ h hp ih => exact .descendant ih (hsub _ _ h) hp

/-- The command is in the family of one of the keys. -/
def InFamilies (m : KeyMap String (Definition α)) (keys : List String) (d : Definition α) : Prop :=
  ∃ key ∈ keys, Family m key d

theorem inFamilies_singleton : InFamilies m [key] d ↔ Family m key d := by
  simp [InFamilies]

/-- One command of a family is taken out, and the keys of those scoped under it are pending in its
place: of all families, just this command is missing. -/
theorem inFamilies_erase (hm : AllFiled P m) {scope pending : List String}
    (hscope : ∀ k ∈ scope, ∃ e, m.find? k = some e ∧ e.parentKey? = some key)
    (hpending : ∀ e, m.find? e.key = some e → e.parentKey? = some key → e.key ≠ key →
      e.key ∈ scope ++ pending) :
    InFamilies m (key :: pending) d ↔
      m.find? key = some d ∨ InFamilies (m.erase key) (scope ++ pending) d := by
  have hstays : ∀ {e : Definition α}, m.find? e.key = some e → e.key ≠ key →
      (m.erase key).find? e.key = some e :=
    fun h hne => KeyMap.find?_erase_eq_some_iff.2 ⟨hne, h⟩
  constructor
  · rintro ⟨k, hk, h⟩
    induction h with
    | root h =>
      by_cases hkey : k = key
      · exact .inl (hkey ▸ h)
      · have hmem : k ∈ scope ++ pending :=
          List.mem_append_right _ (List.mem_of_ne_of_mem hkey hk)
        exact .inr ⟨k, hmem, .root (KeyMap.find?_erase_eq_some_iff.2 ⟨hkey, h⟩)⟩
    | @child e h hp =>
      by_cases hkey : e.key = key
      · exact .inl (hkey ▸ h)
      · rcases List.mem_cons.1 hk with rfl | hk
        · exact .inr ⟨e.key, hpending e h hp hkey, .root (hstays h hkey)⟩
        · exact .inr ⟨k, List.mem_append_right _ hk, .child (hstays h hkey) hp⟩
    | @descendant e f hf h hp ih =>
      by_cases hkey : e.key = key
      · exact .inl (hkey ▸ h)
      · rcases ih with hroot | ⟨k', hk', hf'⟩
        · rw [(hm _ f hroot).2] at hp
          exact .inr ⟨e.key, hpending e h hp hkey, .root (hstays h hkey)⟩
        · exact .inr ⟨k', hk', .descendant hf' (hstays h hkey) hp⟩
  · have hmono : ∀ {k}, Family (m.erase key) k d → Family m k d :=
      Family.mono fun _ _ h => (KeyMap.find?_erase_eq_some_iff.1 h).2
    rintro (h | ⟨k, hk, h⟩)
    · exact ⟨key, List.mem_cons_self, .root h⟩
    · rcases List.mem_append.1 hk with hk | hk
      · obtain ⟨e, he, hp⟩ := hscope k hk
        obtain rfl : e.key = k := (hm _ e he).2
        exact ⟨key, List.mem_cons_self, (Family.child he hp).trans hm (hmono h)⟩
      · exact ⟨k, List.mem_cons_of_mem _ hk, hmono h⟩

/-! ## Removals -/

/-- A removal in progress. -/
structure Removal (α : Type) where
  /-- The keys that are still to be visited, the next one first. -/
  pending : List String
  /-- The commands taken out so far. -/
  removed : List (Definition α) := []
  registry : Registry α

namespace Registry

/-- The keys scoped under a key, in the order in which they are visited. -/
def visits (r : Registry α) (key : String) : List String :=
  ((r.scopes.find? key).getD KeyMap.empty).keys.reverse

/-- The registry without a key: its scope and its command are taken out. -/
def without (r : Registry α) (key : String) : Registry α :=
  ((r.dropScope key).eraseKey key).2

end Registry

/-- One turn of a removal. Without pending keys, nothing is left to be done. -/
def Removal.turn (s : Removal α) : Removal α :=
  match s.pending with
  | [] => s
  | key :: pending =>
    { pending := s.registry.visits key ++ pending
      removed := s.removed ++ (s.registry.commands.find? key).toList
      registry := s.registry.without key }

namespace Registry

variable {r : Registry α} {pending : List String} {p : String}

theorem mem_visits_iff : k ∈ r.visits key ↔ r.scopes.Holds key k := by
  rw [visits, List.mem_reverse, Scopes.mem_keys_iff]

theorem nodup_visits (r : Registry α) (key : String) : (r.visits key).Nodup := by
  rw [visits, List.nodup_reverse]
  generalize (r.scopes.find? key).getD KeyMap.empty = scope
  have hkeys : scope.keys.Pairwise fun k k' => compare k k' = .lt :=
    List.pairwise_map.2 scope.ordered
  refine hkeys.imp ?_
  rintro k _ hlt rfl
  simp at hlt

theorem dropScope_of_absent (h : r.scopes.find? key = none) : r.dropScope key = r := by
  unfold dropScope
  rw [KeyMap.erase_of_find?_eq_none h]

@[simp] theorem commands_without (r : Registry α) (key : String) :
    (r.without key).commands = r.commands.erase key := by
  rw [without, commands_eraseKey]
  rfl

theorem of_holds_without (h : (r.without key).scopes.Holds p k) : p ≠ key ∧ r.scopes.Holds p k := by
  suffices hdropped : (r.dropScope key).scopes.Holds p k from Scopes.holds_erase.1 hdropped
  unfold without eraseKey at h
  split at h
  · exact h
  · dsimp only at h
    split at h
    · exact (Scopes.holds_detach.1 h).1
    · exact h

theorem removeFamilies_cons (r : Registry α) (key : String) (pending : List String) :
    r.removeFamilies (key :: pending) =
      ((r.commands.find? key).toList ++
          ((r.without key).removeFamilies (r.visits key ++ pending)).1,
        ((r.without key).removeFamilies (r.visits key ++ pending)).2) := by
  have hremoved : ∀ r : Registry α, (r.eraseKey key).1 = r.commands.find? key := by
    intro r
    unfold eraseKey
    split
    · rename_i h
      exact h.symm
    · rename_i h
      exact h.symm
  rw [removeFamilies]
  unfold visits without
  split
  · rename_i children h
    simp only [hremoved, h, Option.getD_some]
    rfl
  · rename_i h
    simp only [hremoved, h, dropScope_of_absent h]
    rfl

/-- What every turn carries from the rest of a removal to the whole of it is true of all
removals. -/
theorem removal_induction {motive : Registry α → List String → Prop}
    (done : ∀ r, motive r [])
    (turn : ∀ r key pending, motive (r.without key) (r.visits key ++ pending) →
      motive r (key :: pending))
    (r : Registry α) (pending : List String) : motive r pending := by
  fun_induction removeFamilies r pending with
  | case1 r => exact done r
  | case2 r key pending children h removed rest ih =>
    refine turn r key pending ?_
    rw [visits, h]
    exact ih
  | case3 r key pending h removed rest ih =>
    refine turn r key pending ?_
    rw [visits, without, dropScope_of_absent h, h]
    exact ih

/-! ## What a turn does -/

theorem ConsistentBut.without (h : r.ConsistentBut (key :: pending)) :
    (r.without key).ConsistentBut (r.visits key ++ pending) := by
  unfold Registry.without visits
  cases hs : r.scopes.find? key with
  | some children =>
    refine (h.dropScope hs).eraseKey fun k hk hne => ?_
    simp only [List.mem_append, List.mem_cons] at hk ⊢
    rcases hk with hk | rfl | hk
    · exact .inl hk
    · exact absurd rfl hne
    · exact .inr hk
  | none =>
    rw [dropScope_of_absent hs]
    exact h.eraseKey fun k hk hne => List.mem_append_right _ (List.mem_of_ne_of_mem hne hk)

/-- A turn takes out one command, and leaves the other ones of the families. -/
theorem inFamilies_turn (h : r.ConsistentBut (key :: pending)) :
    InFamilies r.commands (key :: pending) d ↔
      r.commands.find? key = some d ∨
        InFamilies (r.without key).commands (r.visits key ++ pending) d := by
  rw [commands_without]
  refine inFamilies_erase h.filed (fun k hk => h.sound key k (mem_visits_iff.1 hk)) ?_
  intro e he hp hne
  rcases h.complete key e.key e he hp with hs | hs
  · exact List.mem_append_left _ (mem_visits_iff.2 hs)
  · exact List.mem_append_right _ (List.mem_of_ne_of_mem hne hs)

/-- The keys are those of different commands, and no scope has them any more. -/
structure Waiting (r : Registry α) (pending : List String) : Prop where
  nodup : pending.Nodup
  registered : ∀ k ∈ pending, ∃ d, r.commands.find? k = some d
  unscoped : ∀ k ∈ pending, ∀ p, ¬ r.scopes.Holds p k

/-- A command that passes its check is not scoped under itself. -/
theorem parentKey?_ne_key (h : d.check = .ok ()) : d.parentKey? ≠ some d.key := by
  intro hp
  unfold Definition.check Definition.fault? at h
  by_cases hname : Definition.isName d.name <;> simp [hname, hp] at h

/-- The keys that a turn adds to the pending ones are not among them yet. -/
theorem waiting_turn (h : r.ConsistentBut (key :: pending)) (hw : Waiting r pending)
    (hkey : key ∉ pending) : Waiting (r.without key) (r.visits key ++ pending) := by
  have hscope : ∀ k ∈ r.visits key, k ≠ key ∧
      ∃ d, r.commands.find? k = some d ∧ d.parentKey? = some key := by
    intro k hk
    obtain ⟨d, hd, hp⟩ := h.sound key k (mem_visits_iff.1 hk)
    refine ⟨?_, d, hd, hp⟩
    rintro rfl
    obtain ⟨hcheck, hfiled⟩ := h.filed _ d hd
    exact parentKey?_ne_key hcheck (hfiled ▸ hp)
  refine ⟨?_, fun k hk => ?_, fun k hk p hs => ?_⟩
  · refine List.Nodup.append (nodup_visits r key) hw.nodup fun k hk hk' => ?_
    exact hw.unscoped k hk' key (mem_visits_iff.1 hk)
  · simp only [commands_without, KeyMap.find?_erase_eq_some_iff]
    rcases List.mem_append.1 hk with hk | hk
    · obtain ⟨hne, d, hd, -⟩ := hscope k hk
      exact ⟨d, hne, hd⟩
    · obtain ⟨d, hd⟩ := hw.registered k hk
      exact ⟨d, fun hk' => hkey (hk' ▸ hk), hd⟩
  · obtain ⟨hp, hs⟩ := of_holds_without hs
    rcases List.mem_append.1 hk with hk | hk
    · -- the one scope that had the key has been dropped
      obtain ⟨-, d, hd, hparent⟩ := hscope k hk
      obtain ⟨d', hd', hparent'⟩ := h.sound p k hs
      cases hd.symm.trans hd'
      cases hparent.symm.trans hparent'
      exact hp rfl
    · exact hw.unscoped k hk p hs

/-! ## What a removal does -/

/-- What is taken out of a registry, each command once, and what is left. -/
structure Removes (r : Registry α) (keys : List String) (removed : List (Definition α))
    (r' : Registry α) : Prop where
  mem_iff : ∀ d, d ∈ removed ↔ InFamilies r.commands keys d
  nodup : (removed.map Definition.key).Nodup
  left : ∀ k d, r'.commands.find? k = some d ↔
    r.commands.find? k = some d ∧ ¬ InFamilies r.commands keys d

/-- A removal takes out the families of the pending keys, and nothing else. -/
theorem removes_removeFamilies (h : r.ConsistentBut pending) :
    Removes r pending (r.removeFamilies pending).1 (r.removeFamilies pending).2 := by
  induction r, pending using removal_induction with
  | done r =>
    rw [removeFamilies]
    exact ⟨fun d => by simp [InFamilies], List.nodup_nil, fun k d => by simp [InFamilies]⟩
  | turn r key pending ih =>
    have hrest := ih h.without
    rw [removeFamilies_cons]
    refine ⟨fun d => ?_, ?_, fun k d => ?_⟩
    · rw [inFamilies_turn h, List.mem_append, hrest.mem_iff, Option.mem_toList]
    · rw [List.map_append]
      refine List.Nodup.append ?_ hrest.nodup ?_
      · cases r.commands.find? key with
        | none => exact List.nodup_nil
        | some d => exact List.nodup_singleton _
      · -- the command of the key cannot be removed again, since it is gone
        intro k hk hk'
        obtain ⟨d, hd, rfl⟩ := List.mem_map.1 hk
        obtain ⟨d', hd', hkey⟩ := List.mem_map.1 hk'
        obtain ⟨k', -, hfamily⟩ := (hrest.mem_iff d').1 hd'
        have hd' := hfamily.registered h.without.filed
        rw [commands_without, hkey] at hd'
        exact (KeyMap.find?_erase_eq_some_iff.1 hd').1
          (h.filed key d (Option.mem_toList.1 hd)).2
    · have hgone : r.commands.find? k = some d → (k ≠ key ↔ ¬ r.commands.find? key = some d) := by
        intro hd
        constructor
        · intro hne hd'
          exact hne ((h.filed k d hd).2.symm.trans (h.filed key d hd').2)
        · rintro hne rfl
          exact hne hd
      rw [inFamilies_turn h, hrest.left, commands_without, KeyMap.find?_erase_eq_some_iff, not_or]
      grind

/-- With all pending keys waiting, a removal ends after as many turns as there are commands to be
removed. -/
theorem turns_removeFamilies (h : r.ConsistentBut pending) (hw : Waiting r pending)
    (earlier : List (Definition α)) :
    Removal.turn^[(r.removeFamilies pending).1.length]
        { pending, removed := earlier, registry := r } =
      { pending := [], removed := earlier ++ (r.removeFamilies pending).1,
        registry := (r.removeFamilies pending).2 } := by
  induction r, pending using removal_induction generalizing earlier with
  | done r =>
    rw [removeFamilies, List.append_nil]
    rfl
  | turn r key pending ih =>
    obtain ⟨hkey, hnodup⟩ := List.nodup_cons.1 hw.nodup
    have hrest : Waiting r pending :=
      ⟨hnodup, fun k hk => hw.registered k (List.mem_cons_of_mem _ hk),
        fun k hk => hw.unscoped k (List.mem_cons_of_mem _ hk)⟩
    obtain ⟨d, hd⟩ := hw.registered key List.mem_cons_self
    have hturn : Removal.turn { pending := key :: pending, removed := earlier, registry := r } =
        { pending := r.visits key ++ pending, removed := earlier ++ [d],
          registry := r.without key } := by
      unfold Removal.turn
      simp only [hd, Option.toList_some]
    rw [removeFamilies_cons, hd, Option.toList_some, List.singleton_append, List.length_cons,
      Function.iterate_succ_apply, hturn, ih h.without (waiting_turn h hrest hkey),
      List.append_assoc, List.singleton_append]

/-- What the removal of the family of a key has to do. -/
structure RemovesFamily (r : Registry α) (key : String) (removed : List (Definition α))
    (r' : Registry α) : Prop where
  /-- The loop ends, after no more turns than there are commands to be removed and one for a key
  that no command has. -/
  ends : ∃ n ≤ removed.length + 1,
    Removal.turn^[n] { pending := [key], registry := r } =
      { pending := [], removed, registry := r' }
  /-- The commands of the family are removed, and only these. -/
  mem_iff : ∀ d, d ∈ removed ↔ Family r.commands key d
  /-- None of them is removed twice. -/
  nodup : (removed.map Definition.key).Nodup
  /-- The other commands are still there. -/
  commands : ∀ k d, r'.commands.find? k = some d ↔
    r.commands.find? k = some d ∧ ¬ Family r.commands key d
  /-- They are in the scopes in which they were before. -/
  scopes : ∀ p k, r'.scopes.Holds p k ↔
    r.scopes.Holds p k ∧ ∀ d, r.commands.find? k = some d → ¬ Family r.commands key d

/-- **A family is removed as a whole, and nothing with it**: in every registry that operations lead
to, also where parent links form a cycle, the removal of a name ends, gives each command of the
family of its key once, and leaves all other commands as they are. -/
theorem removeFamily_exact (ops : List (Operation α)) (name : String) :
    RemovesFamily ((empty : Registry α).afterAll ops) (Definition.keyOf name)
      (((empty : Registry α).afterAll ops).removeFamily name).1
      (((empty : Registry α).afterAll ops).removeFamily name).2 := by
  have h : ((empty : Registry α).afterAll ops).Consistent := consistent_afterAll ops
  generalize (empty : Registry α).afterAll ops = r at h
  unfold removeFamily
  generalize Definition.keyOf name = key
  have hbut := h.but [key]
  have hremoves := removes_removeFamilies hbut
  have hafter := consistent_removeFamilies hbut
  have hcommands : ∀ k d, (r.removeFamilies [key]).2.commands.find? k = some d ↔
      r.commands.find? k = some d ∧ ¬ Family r.commands key d := by
    intro k d
    rw [hremoves.left, inFamilies_singleton]
  refine ⟨?_, fun d => ?_, hremoves.nodup, hcommands, fun p k => ?_⟩
  · -- the key itself may have no command, and its turn then removes nothing
    have hnone : Waiting r [] := ⟨List.nodup_nil, nofun, nofun⟩
    have hwaiting := waiting_turn hbut hnone List.not_mem_nil
    refine ⟨((r.without key).removeFamilies (r.visits key ++ [])).1.length + 1, ?_, ?_⟩
    · rw [removeFamilies_cons, List.length_append]
      omega
    · rw [removeFamilies_cons, Function.iterate_succ_apply]
      exact turns_removeFamilies hbut.without hwaiting _
  · rw [hremoves.mem_iff, inFamilies_singleton]
  · rw [hafter.inScope, h.inScope]
    simp only [hcommands]
    grind

end Registry

end CanvasScript.Command
