import CanvasScript.Proofs.Command.Composition

/-!
# Loading commands

Commands are loaded one after the other, up to the first one that is refused. A command of the list
may take the place of another one, in the registry or earlier in the list, and may move to another
scope by that. What is left in the end depends on the last command of each key alone.

* `lastUnder`: the last one of some commands that has a key.
* `Registry.Loaded`: what commands that are all accepted leave behind.
* `Registry.Loads`: how loading ends, with all commands or with the first one that is refused.

Results:
* `Registry.load_eq_none_iff`: loading succeeds if every command passes its check.
* `Registry.load_of_refused`: otherwise it goes as far as the first one that does not.
* `Registry.find?_load`: the commands afterwards.
* `Registry.load_congr`: lists with the same last commands leave the same registry behind.
* `Registry.load_exact`: all of it for every registry that operations lead to.
-/

namespace CanvasScript.Command

variable {α : Type} {d : Definition α} {ds es : List (Definition α)} {k : String} {fault : Fault}

/-! ## Last commands -/

/-- The last one of some commands that has a key. -/
def lastUnder (ds : List (Definition α)) (k : String) : Option (Definition α) :=
  (ds.filter (·.key == k)).getLast?

theorem lastUnder_eq_find? (ds : List (Definition α)) (k : String) :
    lastUnder ds k = ds.reverse.find? (·.key == k) := by
  rw [lastUnder, List.getLast?_eq_head?_reverse, ← List.filter_reverse, List.head?_filter]

/-- A command that is refused is refused for a fault of its definition. -/
theorem Definition.exists_cause_of_check (h : d.check = .error fault) :
    ∃ cause, fault = .definition cause := by
  unfold Definition.check at h
  split at h
  · rename_i cause hcause
    cases h
    exact ⟨cause, rfl⟩
  · cases h

/-- Either all commands pass their check, or there is a first one that does not. -/
theorem all_checked_or_first_refused (ds : List (Definition α)) :
    (∀ d ∈ ds, d.check = .ok ()) ∨
      ∃ before d behind fault, ds = before ++ d :: behind ∧ (∀ e ∈ before, e.check = .ok ()) ∧
        d.check = .error fault := by
  induction ds with
  | nil => exact .inl nofun
  | cons d ds ih =>
    cases hd : d.check with
    | error fault => exact .inr ⟨[], d, ds, fault, rfl, nofun, hd⟩
    | ok u =>
      rcases ih with hall | ⟨before, e, behind, fault, rfl, hbefore, he⟩
      · exact .inl (List.forall_mem_cons.2 ⟨hd, hall⟩)
      · exact .inr ⟨d :: before, e, behind, fault, rfl, List.forall_mem_cons.2 ⟨hd, hbefore⟩, he⟩

namespace Registry

variable {r : Registry α}

/-! ## How far loading goes -/

theorem register_of_refused (h : d.check = .error fault) : r.register d = .error fault := by
  rw [register, h]
  rfl

theorem register_of_accepted (h : d.check = .ok ()) (r : Registry α) :
    ∃ r', r.register d = .ok r' := by
  rw [register, h]
  exact ⟨_, rfl⟩

/-- Loading succeeds if every command passes its check. -/
theorem load_eq_none_iff : (r.load ds).2 = none ↔ ∀ d ∈ ds, d.check = .ok () := by
  induction ds generalizing r with
  | nil => simp [load]
  | cons d ds ih =>
    rw [load, List.forall_mem_cons]
    cases hd : d.check with
    | error fault => simp [register_of_refused hd]
    | ok u =>
      obtain ⟨r', hr⟩ := register_of_accepted hd r
      simp [hr, ih]

/-- Loading goes as far as the first command that is refused. -/
theorem load_of_refused {before behind : List (Definition α)}
    (hbefore : ∀ e ∈ before, e.check = .ok ()) (hd : d.check = .error fault) :
    r.load (before ++ d :: behind) = ((r.load before).1, some fault) := by
  rw [load_append (Option.isNone_iff_eq_none.2 (load_eq_none_iff.2 hbefore)), load,
    register_of_refused hd]

/-! ## What is left behind -/

theorem find?_load (h : (r.load ds).2 = none) (k : String) :
    (r.load ds).1.commands.find? k = (lastUnder ds k).or (r.commands.find? k) := by
  rw [commands_load h, find?_stored, lastUnder_eq_find?]

/-- Lists with the same last commands leave the same registry behind: its commands are the same, and
with them its scopes. -/
theorem load_congr (hr : r.Consistent) (hd : (r.load ds).2 = none) (he : (r.load es).2 = none)
    (h : ∀ k, lastUnder ds k = lastUnder es k) : r.load ds = r.load es := by
  have hcommands : (r.load ds).1.commands = (r.load es).1.commands := by
    refine KeyMap.ext fun k => ?_
    rw [find?_load hd, find?_load he, h]
  exact Prod.ext ((consistent_load hr ds).ext (consistent_load hr es) hcommands) (hd.trans he.symm)

/-- What has been loaded once is already there the second time. -/
theorem load_again (hr : r.Consistent) (h : (r.load ds).2 = none) :
    (r.load ds).1.load ds = ((r.load ds).1, none) := by
  have hloaded := consistent_load hr ds
  have hagain : ((r.load ds).1.load ds).2 = none := load_eq_none_iff.2 (load_eq_none_iff.1 h)
  have hcommands : ((r.load ds).1.load ds).1.commands = (r.load ds).1.commands := by
    refine KeyMap.ext fun k => ?_
    rw [find?_load hagain, find?_load h, ← Option.or_assoc, Option.or_self]
  exact Prod.ext ((consistent_load hloaded ds).ext hloaded hcommands) hagain

/-- What commands that are all accepted leave behind. -/
structure Loaded (r : Registry α) (ds : List (Definition α)) (r' : Registry α) : Prop where
  /-- The last command of each key is stored under it, and is in its own scope alone. -/
  last : ∀ k d, lastUnder ds k = some d → r'.commands.find? k = some d ∧
    ∀ parent, r'.scopes.Holds parent k ↔ d.parentKey? = some parent
  /-- Nothing is changed at other keys. -/
  others : ∀ k, lastUnder ds k = none → r'.commands.find? k = r.commands.find? k ∧
    ∀ parent, r'.scopes.Holds parent k ↔ r.scopes.Holds parent k
  /-- No scope is left without keys. -/
  occupied : r'.scopes.Occupied
  /-- Commands with different keys may come in another order. -/
  reordered : ∀ es : List (Definition α),
    (∀ k, es.filter (·.key == k) = ds.filter (·.key == k)) → r.load es = (r', none)
  /-- What is loaded again is there already. -/
  again : r'.load ds = (r', none)

theorem loaded_of_accepted (hr : r.Consistent) (h : (r.load ds).2 = none) :
    Loaded r ds (r.load ds).1 := by
  have hloaded := consistent_load hr ds
  have hfind := find?_load h
  refine ⟨fun k d hlast => ?_, fun k hlast => ?_, hloaded.occupied, fun es hes => ?_,
    load_again hr h⟩
  · have hd : (r.load ds).1.commands.find? k = some d := by rw [hfind, hlast, Option.some_or]
    refine ⟨hd, fun parent => ?_⟩
    rw [hloaded.inScope, hd]
    simp
  · have hsame : (r.load ds).1.commands.find? k = r.commands.find? k := by
      rw [hfind, hlast, Option.none_or]
    refine ⟨hsame, fun parent => ?_⟩
    rw [hloaded.inScope, hr.inScope, hsame]
  · have haccepted : (r.load es).2 = none := by
      refine load_eq_none_iff.2 fun e he => load_eq_none_iff.1 h e ?_
      have hmem : e ∈ es.filter (·.key == e.key) := List.mem_filter.2 ⟨he, beq_self_eq_true _⟩
      rw [hes] at hmem
      exact (List.mem_filter.1 hmem).1
    rw [load_congr hr haccepted h fun k => by rw [lastUnder, lastUnder, hes], ← h]

/-- How the loading of commands ends. -/
inductive Loads (r : Registry α) (ds : List (Definition α)) : Prop
  /-- All of them pass their check, and are loaded. -/
  | accepted {r' : Registry α} (hchecked : ∀ d ∈ ds, d.check = .ok ())
      (hload : r.load ds = (r', none)) (hloaded : Loaded r ds r')
  /-- One of them does not, and those before it do: they are loaded, and that is all. By itself
  that command leaves a registry as it is. -/
  | refused {before : List (Definition α)} {d : Definition α} {behind : List (Definition α)}
      {cause : DefinitionFault} {r' : Registry α} (hlist : ds = before ++ d :: behind)
      (hchecked : ∀ e ∈ before, e.check = .ok ()) (hrefused : d.check = .error (.definition cause))
      (hbefore : r.load before = (r', none)) (hload : r.load ds = (r', some (.definition cause)))
      (halone : ∀ r : Registry α, r.register d = .error (.definition cause) ∧
        r.after (.register d) = r)

/-- **Loading is exact**: in every registry that operations lead to, commands that are loaded leave
behind the last one of each key, in its own scope and in no other; the order of the keys does not
matter, and neither does it matter how often the list is loaded. The first command that does not
pass its check ends the loading with its fault, and what came before it stays. -/
theorem load_exact (ops : List (Operation α)) (ds : List (Definition α)) :
    Loads ((empty : Registry α).afterAll ops) ds := by
  have hr := consistent_afterAll ops
  generalize (empty : Registry α).afterAll ops = r at hr
  rcases all_checked_or_first_refused ds with hall | ⟨before, d, behind, fault, rfl, hbefore, hd⟩
  · have hnone : (r.load ds).2 = none := load_eq_none_iff.2 hall
    exact .accepted hall (Prod.ext rfl hnone) (loaded_of_accepted hr hnone)
  · obtain ⟨cause, rfl⟩ := Definition.exists_cause_of_check hd
    have hnone : (r.load before).2 = none := load_eq_none_iff.2 hbefore
    refine .refused rfl hbefore hd (Prod.ext rfl hnone) (load_of_refused hbefore hd) fun r => ?_
    have hregister : r.register d = .error (.definition cause) := register_of_refused hd
    exact ⟨hregister, by rw [after, hregister]⟩

/-- A command moves to another parent and back within one list, which is loaded twice. -/
example :
    let command := fun name parent? => ({ name, action := (), parent? } : Definition Unit)
    let ds := [command "$dot" (some "$Frame"), command "$DOT" (some "$grid"),
      command "$line" (some "$grid"), command "$dot" (some "$frame")]
    let keys := fun r : Registry Unit => r.scopes.entries.map fun e => (e.1, e.2.keys)
    let r := (empty.load ds).1
    keys r = [("$frame", ["$dot"]), ("$grid", ["$line"])] ∧ keys (r.load ds).1 = keys r := by
  decide +kernel

end Registry

end CanvasScript.Command
