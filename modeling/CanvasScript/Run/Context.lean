import CanvasScript.Command.Registry
import CanvasScript.Run.World
import CanvasScript.Settings.Config

/-!
# Contexts

A context is what a call can see: the commands visible to it and the canvas it works on. Contexts
are values, so that what is made visible in one of them does not show in any other. What they
share is the world: a context reads and changes variables and canvases in steps on the world of the
evaluation that it is part of. Only work on a canvas can fail.

* `Context.root`: the commands without a parent, and no canvas.
* `Context.loadScoped`: the commands scoped under a parent made visible too.
* `Context.lookup?`: a visible command by name, else by alias.
* `Context.get?`, `Context.set`: variables.
* `Context.openCanvas`, `Context.withCanvas`: a new canvas to work on, and work on it.
* `Context.canvases`: all canvases, whichever contexts work on them.
-/

namespace CanvasScript.Run

open Command Settings

/-- What a call can see. -/
structure Context (α : Type) where
  registry : Registry α
  config : Config
  /-- The number of the canvas to work on. -/
  canvas? : Option Nat := none
  /-- The visible commands by key. -/
  commands : KeyMap String (Definition α)

namespace Context

variable {α β : Type}

/-- Commands stored under their keys. -/
def keyed (ds : List (Definition α)) : List (String × Definition α) :=
  ds.map fun d => (d.key, d)

/-- The context of a whole script. -/
def root (registry : Registry α) (config : Config) : Context α where
  registry
  config
  commands := KeyMap.ofList (keyed registry.topLevel)

/-- The context with the commands scoped under `parent` visible too. -/
def loadScoped (c : Context α) (parent : String) : Context α :=
  { c with commands := c.commands.insertAll (keyed (c.registry.childrenOf parent)) }

/-- A visible command by name or, failing that, the first one in key order that has it as an
alias. -/
def lookup? (c : Context α) (name : String) : Option (Definition α) :=
  (c.commands.find? (Definition.keyOf name)).or (c.commands.values.find? (·.matches name))

/-- The value of a variable, whichever context it was set in. -/
def get? (_ : Context α) (name : String) : StateM World (Option Value) := do
  return (← get).get? name

/-- A variable set to a value, for all contexts. -/
def set (_ : Context α) (name : String) (v : Value) : StateM World Unit :=
  modify (·.set name v)

/-- A canvas added to the others, and the context that works on it. -/
def openCanvas (c : Context α) (canvas : Canvas) : StateM World (Context α) := do
  let n := (← get).slots.length
  modify (·.addCanvas canvas)
  return { c with canvas? := some n }

/-- The canvas that the context works on edited on behalf of a command. -/
def withCanvas (c : Context α) (command : String) (edit : Edit β) : Eval β :=
  Eval.withCanvas c.canvas? command edit

/-- The canvases opened so far, in order, whichever contexts work on them. -/
def canvases (_ : Context α) : StateM World (List Canvas) := do
  return (← get).canvases

end Context

end CanvasScript.Run
