import CanvasScript.Command.Arguments
import CanvasScript.Run.World

/-!
# Commands that add layers

A layer command takes the position, the measures and the style of a layer from its arguments and
puts the layer on top of the canvas.

* `coordinate`, `size`: whole numbers in the range of what they measure.
* `arc`, `circle`, `ellipse`, `ellipseImage`, `lettering`: shapes from arguments.
* `push`: the layer of a shape on top of a canvas, with a copy of the outline it names.
* `addLayer`: the shape is read from the arguments before.
-/

namespace CanvasScript.Standard

open Canvas Command Run

/-- The argument `name` is a position on the plane. -/
def coordinate (a : Arguments) (name : String) : Except Fault Int := do
  let n ← a.integer name
  if -2147483648 ≤ n ∧ n < 2147483648 then .ok n
  else .error (.argument a.command (name ++ " coordinate") (toString n))

/-- The argument `name` is a measure, which is not negative. -/
def size (a : Arguments) (name : String) : Except Fault Nat := do
  let n ← a.integer name
  if 0 ≤ n ∧ n < 4294967296 then .ok n.toNat
  else .error (.argument a.command (name ++ " non-negative number") (toString n))

/-- The argument `name` is a number of the precision that painting has. -/
def single (a : Arguments) (name : String) : Except Fault Float32 := do
  return (← a.float name).toFloat32

/-- How a shape is painted. -/
def paint (a : Arguments) : Except Fault Paint := do
  let colour ← a.colour "Color"
  let filled ← a.boolean "Filled"
  let stroke ← single a "Stroke"
  return { colour, filled, stroke }

/-- The measures of a box with round corners. -/
def boxSize (a : Arguments) : Except Fault BoxSize := do
  let width ← size a "Width"
  let height ← size a "Height"
  let radius ← size a "Radius"
  return { width, height, radius }

/-- A part of a circle. -/
def arc (a : Arguments) : Except Fault Shape := do
  let radius ← size a "Radius"
  let paint ← paint a
  let start ← single a "Start Angle"
  let stop ← single a "End Angle"
  return .arc radius paint start stop

/-- A circle. -/
def circle (a : Arguments) : Except Fault Shape := do
  let radius ← size a "Radius"
  return .circle radius (← paint a)

/-- A box with round corners. -/
def ellipse (a : Arguments) : Except Fault Shape := do
  let measures ← boxSize a
  return .ellipse measures (← paint a)

/-- An image in a box with round corners. -/
def ellipseImage (a : Arguments) : Except Fault Shape := do
  let measures ← boxSize a
  return .ellipseImage measures (← a.string "URL")

/-- Lines of text. -/
def lettering (a : Arguments) : Except Fault Shape := do
  let font ← a.string "Font Name"
  let size ← single a "Font Size"
  let colour ← a.colour "Color"
  let text ← a.string "Text"
  let align ← TextAlign.parse (← a.string "Align")
  return .text font size colour text align

/-- The outline that a layer names (`outline`). A name that no outline has stands for none. -/
def namedOutline? (c : Canvas) (a : Arguments) : Option Outline :=
  (a.string? "Outline Name").bind c.outline?

/-- A shape on top of the canvas, in a layer of its own. -/
def push (a : Arguments) (shape : Shape) : Edit Unit := do
  let x ← Edit.ofExcept (coordinate a "X")
  let y ← Edit.ofExcept (coordinate a "Y")
  let outline? := namedOutline? (← Edit.canvas) a
  let layer ← Edit.draw (Layer.make (a.string? "ID") x y shape outline?)
  Edit.modify fun c => c.addLayer layer

/-- A layer of the shape that the arguments describe on top of the canvas. -/
def addLayer (shape : Arguments → Except Fault Shape) (a : Arguments) : Edit Unit := do
  push a (← Edit.ofExcept (shape a))

end CanvasScript.Standard
