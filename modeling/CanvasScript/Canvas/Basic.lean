import CanvasScript.Canvas.Layer
import CanvasScript.Data.KeyMap

/-!
# Canvases

A canvas collects layers, outlines and fonts until it is rendered.

* `Canvas`: the collected parts, in paint order or by name, and how often it was rendered.
* `Canvas.make`: an empty canvas with dimensions in range.
* `addLayer`, `createOutline`, `loadFont`, `markRendered`: the changes to a canvas.
* `Canvas.layer?`, `Canvas.outline?`, `Canvas.font?`: parts by name.
-/

namespace CanvasScript

/-- How far a canvas has come. -/
inductive Canvas.Status where
  /-- It has dimensions and nothing else. -/
  | dimensioned
  /-- Something was added. -/
  | populated
  /-- It was rendered. -/
  | rendered
deriving DecidableEq, Inhabited, Repr

open Canvas in
/-- An image in the making (`CanvasState`). -/
structure Canvas where
  id : String
  width : Nat
  height : Nat
  /-- In paint order. -/
  layers : List Layer := []
  outlines : KeyMap String Outline := KeyMap.empty
  fonts : KeyMap String Font := KeyMap.empty
  status : Status := .dimensioned
  renders : Nat := 0

namespace Canvas

/-- The word for a status. -/
def Status.name : Status → String
  | dimensioned => "dimensioned"
  | populated => "populated"
  | rendered => "rendered"

/-- A width or height of a canvas. -/
def checkDimension (what : String) (n : Nat) : Except Fault Unit :=
  if 1 ≤ n ∧ n ≤ maxDimension then .ok ()
  else .error (.argument "canvas" s!"{what} between 1 and {maxDimension}" (toString n))

/-- An empty canvas (`CanvasState.new`). -/
def make (width height : Nat) (ids : IdSupply) : Except Fault (Canvas × IdSupply) := do
  checkDimension "width" width
  checkDimension "height" height
  let (id, ids) := ids.next canvasIdLength
  .ok ({ id, width, height }, ids)

/-- A canvas to which something was added is no longer just dimensioned. -/
def touch (c : Canvas) : Canvas :=
  match c.status with
  | .dimensioned => { c with status := .populated }
  | _ => c

/-- A layer on top of the others. -/
def addLayer (c : Canvas) (l : Layer) : Canvas :=
  { c with layers := c.layers ++ [l] }.touch

/-- Layers on top of the others, one after the other. -/
def addLayers (c : Canvas) (ls : List Layer) : Canvas :=
  ls.foldl addLayer c

/-- An outline, in the place of any with its name. -/
def createOutline (c : Canvas) (o : Outline) : Canvas :=
  { c with outlines := c.outlines.insert o.id o }.touch

/-- A font, in the place of any of its family. -/
def loadFont (c : Canvas) (f : Font) : Canvas :=
  { c with fonts := c.fonts.insert f.family f }.touch

/-- One more render. -/
def markRendered (c : Canvas) : Canvas :=
  { c with renders := c.renders + 1, status := .rendered }

/-- The lowest layer with an identifier. -/
def layer? (c : Canvas) (id : String) : Option Layer :=
  c.layers.find? (·.id == id)

/-- The outline with a name. -/
def outline? (c : Canvas) (id : String) : Option Outline :=
  c.outlines.find? id

/-- The font of a family. -/
def font? (c : Canvas) (family : String) : Option Font :=
  c.fonts.find? family

end Canvas

end CanvasScript
