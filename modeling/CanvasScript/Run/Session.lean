import CanvasScript.Run.Evaluation

/-!
# Sessions

Whoever evaluates scripts can hold several contexts at a time. A session is a tree of contexts over
one world. Contexts are numbered in the order in which they were made, the root being number zero;
a number that no context has stands for the root.

* `Session.start`: the root alone.
* `Session.extend`: one more context, which sees what another one sees at that time.
* `Session.loadScoped`, `Session.openCanvas`: a change to one context.
* `Session.act`: a step in one context.
-/

namespace CanvasScript.Run

open Command Settings

/-- Contexts that share a world. -/
structure Session (α : Type) where
  root : Context α
  /-- The contexts after the root, in the order in which they were made. -/
  extensions : List (Context α) := []
  world : World

namespace Session

variable {α β : Type}

/-- The root context of a registry over a world. -/
def start (registry : Registry α) (config : Config) (world : World) : Session α where
  root := Context.root registry config
  world

/-- The context with a number. -/
def context (s : Session α) : Nat → Context α
  | 0 => s.root
  | n + 1 => s.extensions.getD n s.root

/-- The session with another context under a number. -/
def setContext (s : Session α) (c : Context α) : Nat → Session α
  | 0 => { s with root := c }
  | n + 1 => { s with extensions := s.extensions.set n c }

/-- A copy of a context added to the others; its number. -/
def extend (s : Session α) (n : Nat) : Nat × Session α :=
  (s.extensions.length + 1, { s with extensions := s.extensions ++ [s.context n] })

/-- The commands scoped under a parent made visible in one context; how many there are. -/
def loadScoped (s : Session α) (n : Nat) (parent : String) : Nat × Session α :=
  let c := s.context n
  ((c.registry.childrenOf parent).length, s.setContext (c.loadScoped parent) n)

/-- A step in one context. -/
def act (s : Session α) (n : Nat) (step : Context α → StateM World β) : β × Session α :=
  let (b, world) := (step (s.context n)).run s.world
  (b, { s with world })

/-- A canvas for one context to work on. -/
def openCanvas (s : Session α) (n : Nat) (canvas : Canvas) : Session α :=
  let (c, s) := s.act n (·.openCanvas canvas)
  s.setContext c n

/-- The canvas of a context as it is. -/
def canvas? (s : Session α) (n : Nat) : Option Canvas :=
  ((s.context n).canvas?.bind (s.world.slots[·]?)).map (·.canvas)

end Session

end CanvasScript.Run
