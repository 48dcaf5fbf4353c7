import CanvasScript.Command.Definition
import CanvasScript.Data.KeyMap

/-!
# The command registry

* `Registry`: every known command by key, and for every parent key the keys of the commands scoped
  under it. The second table is kept in step with the first, so that the commands of a scope are
  found without a search.
* `register?`, `unregister`, `removeFamily`: one command in, one out, one out with everything
  scoped under it.
* `get?`: a command by name, else by alias.
* `topLevel`, `childrenOf`: the commands of a scope, in key order.
* `load`: commands in, up to the first that is refused.
* `summaries`: the listing of all commands, each followed by those scoped under it.
-/

namespace CanvasScript.Command

/-- The keys of the commands scoped under each parent key. -/
abbrev Scopes := KeyMap String (KeyMap String Unit)

namespace Scopes

/-- `key` put under `parent`. -/
def attach (s : Scopes) (parent key : String) : Scopes :=
  s.insert parent (((s.find? parent).getD KeyMap.empty).insert key ())

/-- `key` taken from under `parent`; a parent left without keys goes too. -/
def detach (s : Scopes) (parent key : String) : Scopes :=
  match s.find? parent with
  | none => s
  | some keys =>
    let rest := keys.erase key
    if rest.isEmpty then s.erase parent else s.insert parent rest

theorem size_detach_le (s : Scopes) (parent key : String) :
    (s.detach parent key).size ≤ s.size := by
  unfold detach
  split
  · exact Nat.le_refl _
  · rename_i keys h
    dsimp only
    split
    · exact KeyMap.size_erase_le s parent
    · exact Nat.le_of_eq (KeyMap.size_insert_of_find? h)

end Scopes

/-- Commands by key, and the keys of each scope (`CommandRegistry`). -/
structure Registry (α : Type) where
  commands : KeyMap String (Definition α)
  scopes : Scopes

namespace Registry

variable {α : Type}

/-- The registry without commands. -/
def empty : Registry α := ⟨KeyMap.empty, KeyMap.empty⟩

instance : Inhabited (Registry α) := ⟨empty⟩

/-! ## Look-ups -/

/-- The command registered under a name or, failing that, the first one in key order that has it
as an alias. -/
def get? (r : Registry α) (name : String) : Option (Definition α) :=
  (r.commands.find? (Definition.keyOf name)).or (r.commands.values.find? (·.matches name))

/-- There is a command with this name or alias. -/
def has (r : Registry α) (name : String) : Bool := (r.get? name).isSome

/-- All commands, in key order. -/
def list (r : Registry α) : List (Definition α) := r.commands.values

/-- The number of commands (`len`). -/
def size (r : Registry α) : Nat := r.commands.size

/-- The commands without a parent, in key order. -/
def topLevel (r : Registry α) : List (Definition α) :=
  r.list.filter (·.parent?.isNone)

/-- The commands scoped directly under a parent, in key order. -/
def childrenOf (r : Registry α) (parent : String) : List (Definition α) :=
  ((r.scopes.find? (Definition.keyOf parent)).getD KeyMap.empty).keys.filterMap r.commands.find?

/-! ## Adding and removing commands -/

/-- The scopes after the command under `key` went from having the parent key `before?` to having the
parent key `after?` (`detach_if_moved`). -/
def rescope (s : Scopes) (key : String) (before? after? : Option String) : Scopes :=
  let s := match after? with
    | some parent => s.attach parent key
    | none => s
  match before? with
  | some parent => if before? = after? then s else s.detach parent key
  | none => s

/-- A command that passes its check is stored under its key, in the place of any other there. -/
def register (r : Registry α) (d : Definition α) : Except Fault (Registry α) := do
  d.check
  .ok { commands := r.commands.insert d.key d
        scopes := rescope r.scopes d.key
          ((r.commands.find? d.key).bind (·.parentKey?)) d.parentKey? }

/-- The command that `d` takes the place of. -/
def replaced? (r : Registry α) (d : Definition α) : Option (Definition α) :=
  r.commands.find? d.key

/-- The command of a key taken out, and what is left; commands scoped under it stay. -/
def eraseKey (r : Registry α) (key : String) : Option (Definition α) × Registry α :=
  match r.commands.find? key with
  | none => (none, r)
  | some d =>
    (some d,
      { commands := r.commands.erase key
        scopes := match d.parentKey? with
          | some parent => r.scopes.detach parent key
          | none => r.scopes })

/-- The command of a name taken out, and what is left; commands scoped under it stay. -/
def unregister (r : Registry α) (name : String) : Option (Definition α) × Registry α :=
  r.eraseKey (Definition.keyOf name)

theorem size_scopes_eraseKey_le (r : Registry α) (key : String) :
    (r.eraseKey key).2.scopes.size ≤ r.scopes.size := by
  unfold eraseKey
  split
  · exact Nat.le_refl _
  · dsimp only
    split
    · exact Scopes.size_detach_le ..
    · exact Nat.le_refl _

/-- The registry without the table entry of a scope. -/
def dropScope (r : Registry α) (key : String) : Registry α :=
  { r with scopes := r.scopes.erase key }

/-- The commands of the keys in `pending` are taken out, each together with those scoped under
it, the last key of a scope first; with the removed commands in order. -/
def removeFamilies (r : Registry α) (pending : List String) :
    List (Definition α) × Registry α :=
  match pending with
  | [] => ([], r)
  | key :: pending =>
    match _h : r.scopes.find? key with
    | some children =>
      let removed := (r.dropScope key).eraseKey key
      let rest := removeFamilies ((r.dropScope key).eraseKey key).2
        (children.keys.reverse ++ pending)
      (removed.1.toList ++ rest.1, rest.2)
    | none =>
      let removed := r.eraseKey key
      let rest := removeFamilies (r.eraseKey key).2 pending
      (removed.1.toList ++ rest.1, rest.2)
termination_by (r.scopes.size, pending.length)
decreasing_by
  · exact Prod.Lex.left _ _
      (Nat.lt_of_le_of_lt (size_scopes_eraseKey_le _ key) (KeyMap.size_erase_lt _h))
  · rcases Nat.lt_or_eq_of_le (size_scopes_eraseKey_le r key) with hlt | heq
    · exact Prod.Lex.left _ _ hlt
    · rw [heq]
      exact Prod.Lex.right _ (Nat.lt_succ_self _)

/-- A command is taken out together with everything scoped under it, directly or not. -/
def removeFamily (r : Registry α) (name : String) : List (Definition α) × Registry α :=
  r.removeFamilies [Definition.keyOf name]

/-- The families of several names are taken out one after the other. -/
def removeEach (r : Registry α) (names : List String) : Registry α :=
  names.foldl (fun r name => (r.removeFamily name).2) r

/-! ## Loading -/

/-- Commands are registered in order until one is refused: the registry then, and that fault. -/
def load (r : Registry α) : List (Definition α) → Registry α × Option Fault
  | [] => (r, none)
  | d :: ds =>
    match r.register d with
    | .ok r => r.load ds
    | .error fault => (r, some fault)

/-- The commands that `load` is to take when only those scoped under a parent are wanted
(`load_scoped`). -/
def scopedUnder (parent : String) (ds : List (Definition α)) : List (Definition α) :=
  ds.filter (·.parentKey? == some (Definition.keyOf parent))

/-! ## Listing -/

/-- The top-level commands in key order, each followed by those scoped under it. -/
def summaries (r : Registry α) : List Summary :=
  r.topLevel.flatMap fun d => d.summary :: (r.childrenOf d.name).map Definition.summary

end Registry

end CanvasScript.Command
