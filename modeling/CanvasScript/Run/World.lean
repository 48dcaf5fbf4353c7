import CanvasScript.Command.Value
import CanvasScript.Picture.Saving

/-!
# The world of an evaluation

What the calls of a script read and change.

* `World`: files, variables, the canvases opened so far, and the supply of identifiers.
* `Eval`: a step of an evaluation. A fault stops it, but what was done before stays done.
* `Edit`: a step that also changes one canvas, which is set apart from the world meanwhile. What was
  done to the canvas stays done, too.
* `Edit.canvas`, `Edit.modify`, `Edit.draw`, `Edit.save`: the canvas read and changed, identifiers
  drawn, and files written. `Edit.render` is made of these.
* `World.get?`, `World.set`: variables.
* `World.addCanvas`, `Eval.withCanvas`: canvases, by their number in opening order. A canvas that
  is being edited cannot be edited again from within.
-/

namespace CanvasScript.Run

open Command Canvas Storage

/-- A canvas, and whether it is being edited. -/
structure Slot where
  canvas : Canvas
  busy : Bool := false

/-- What the calls of a script read and change (`Ambient`). -/
structure World where
  files : FileSystem
  ids : IdSupply
  /-- The variables. -/
  bindings : KeyMap String Value := KeyMap.empty
  /-- The canvases in opening order. -/
  slots : List Slot := []

namespace World

/-- The value of a variable. -/
def get? (w : World) (name : String) : Option Value :=
  w.bindings.find? name

/-- The world with a variable set to a value. -/
def set (w : World) (name : String) (v : Value) : World :=
  { w with bindings := w.bindings.insert name v }

/-- The world with one more canvas. -/
def addCanvas (w : World) (c : Canvas) : World :=
  { w with slots := w.slots ++ [{ canvas := c }] }

/-- The canvases opened so far, in order. -/
def canvases (w : World) : List Canvas :=
  w.slots.map (·.canvas)

/-- The world with another slot at a number. -/
def setSlot (w : World) (n : Nat) (s : Slot) : World :=
  { w with slots := w.slots.set n s }

end World

/-- A step of an evaluation. -/
abbrev Eval := ExceptT Fault (StateM World)

/-- A step that changes a canvas and the world around it. -/
abbrev Edit := ExceptT Fault (StateM (Canvas × World))

namespace Edit

/-- A step that is a value or a fault. -/
def ofExcept {α : Type} (e : Except Fault α) : Edit α := fun s => (e, s)

/-- The canvas as the steps before have left it. -/
def canvas : Edit Canvas := fun (c, w) => (.ok c, (c, w))

/-- The canvas changed. It stays so, also if a later step fails. -/
def modify (f : Canvas → Canvas) : Edit Unit := fun (c, w) => (.ok (), (f c, w))

/-- A value made with identifiers of the world. -/
def draw {α : Type} (f : IdSupply → Except Fault (α × IdSupply)) : Edit α := fun (c, w) =>
  match f w.ids with
  | .ok (a, ids) => (.ok a, (c, { w with ids }))
  | .error fault => (.error fault, (c, w))

/-- Something saved. What has become of the files stays so, also if saving fails. -/
def save {α : Type} (s : Picture.Saving α) : Edit α := fun (c, w) =>
  let (r, files) := s.run w.files
  (r, (c, { w with files }))

/-- The canvas painted, saved and marked as rendered (`render_canvas`). -/
def render (p : FilePath) : Edit Unit := do
  save (Picture.saveCanvas (← canvas) p)
  modify Canvas.markRendered

/-- A step that leaves the canvas alone. -/
def ofEval {α : Type} (e : Eval α) : Edit α := fun (c, w) =>
  let (r, w) := e.run w
  (r, (c, w))

end Edit

namespace Eval

/-- A step that is a value or a fault. -/
def ofExcept {α : Type} (e : Except Fault α) : Eval α := fun w => (e, w)

/-- The faults of a step attributed to a command. -/
def inCommand {α : Type} (name : String) (e : Eval α) : Eval α := fun w =>
  match e.run w with
  | (.ok a, w) => (.ok a, w)
  | (.error fault, w) => (.error (fault.inCommand name), w)

/-- An empty canvas, not yet added to the others. -/
def makeCanvas (width height : Nat) : Eval Canvas := do
  let w ← get
  let (c, ids) ← ofExcept (Canvas.make width height w.ids)
  set ({ w with ids } : World)
  return c

/-- The canvas with a number edited on behalf of a command. There has to be a canvas, and it must
not be in the middle of another edit. The canvas keeps what was done to it even when the edit
fails. -/
def withCanvas {α : Type} (handle? : Option Nat) (command : String) (edit : Edit α) : Eval α :=
  fun w =>
    match handle?.bind fun n => (w.slots[n]?).map fun s => (n, s) with
    | none => (.error (.scope command "no canvas is open in this context"), w)
    | some (n, s) =>
      if s.busy then (.error (.scope command "the canvas is already being modified"), w)
      else
        let (r, (c, w)) := edit.run (s.canvas, w.setSlot n { s with busy := true })
        (r, w.setSlot n { canvas := c })

end Eval

end CanvasScript.Run
