import CanvasScript.Command.Registry

/-!
# Command packs

* `Pack`: a named collection of commands; its roots are the commands without a parent.
* `Composition`: base packs, packs that override them, and names that are switched off.
* `Composition.build`: the registry of a composition. Each override pack first takes out the
  families of its roots, so that a redefined command does not keep what was scoped under the old
  one.
-/

namespace CanvasScript.Command

/-- A named collection of commands (`CommandPack`). -/
structure Pack (α : Type) where
  name : String
  commands : List (Definition α)

namespace Pack

variable {α β : Type}

/-- The same commands with other actions. -/
def map (f : α → β) (p : Pack α) : Pack β :=
  ⟨p.name, p.commands.map (·.map f)⟩

/-- The names of the commands without a parent. -/
def roots (p : Pack α) : List String :=
  (p.commands.filter (·.parent?.isNone)).map (·.name)

end Pack

/-- What a registry is made of (`RegistryBuilder`). -/
structure Composition (α : Type) where
  base : List (Pack α) := []
  overrides : List (Pack α) := []
  disabled : List String := []

namespace Composition

variable {α : Type}

/-- A registry with all commands of a list, or the fault of the first that is refused. -/
def loadAll (r : Registry α) (ds : List (Definition α)) : Except Fault (Registry α) :=
  match r.load ds with
  | (r, none) => .ok r
  | (_, some fault) => .error fault

/-- A registry in which a pack has replaced the families of its roots (`override_with`). -/
def override (r : Registry α) (p : Pack α) : Except Fault (Registry α) :=
  loadAll (r.removeEach p.roots) p.commands

/-- The registry of a composition. -/
def build (c : Composition α) : Except Fault (Registry α) := do
  let r ← c.base.foldlM (fun r p => loadAll r p.commands) Registry.empty
  let r ← c.overrides.foldlM override r
  .ok (r.removeEach c.disabled)

end Composition

end CanvasScript.Command
