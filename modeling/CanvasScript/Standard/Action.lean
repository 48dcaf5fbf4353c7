import CanvasScript.Run.Handler
import CanvasScript.Standard.Styles

/-!
# What the standard commands do

* `Action`: the actions of the standard commands.
* `setVariable`, `getVariable`: texts kept for the rest of an evaluation.
* `createCanvas`: a canvas, and the code that fills it, which sees the commands scoped under the
  one that creates it.
* `Action.handler`: how each action is carried out. Handlers are generic in the actions of the
  registry they are used with.
-/

namespace CanvasScript.Standard

open Command Run Canvas

/-- The actions of the standard commands. -/
inductive Action where
  | setVariable
  | getVariable
  | createCanvas
  | renderCanvas
  | addArc
  | addCircle
  | addEllipse
  | addEllipseImage
  | addText
  | createOutline
  | loadFont
deriving DecidableEq, Repr

variable {α : Type}

/-- A text kept under a name (`set_var`). -/
def setVariable (context : Context α) (a : Arguments) : Eval String := do
  let value := (a.string? "Value").getD ""
  context.set (← Eval.ofExcept (a.string "Name")) (.string value)
  return ""

/-- The value under a name, nothing if there is none (`get_var`). -/
def getVariable (context : Context α) (a : Arguments) : Eval String := do
  let value? ← context.get? (← Eval.ofExcept (a.string "Name"))
  return (value?.map Value.text).getD ""

/-- The argument `name` is a width or a height. -/
def dimension (a : Arguments) (name : String) : Except Fault Nat := do
  let n ← a.integer name
  if 1 ≤ n ∧ n ≤ maxDimension then .ok n.toNat
  else .error (.argument a.command s!"{name} between 1 and {maxDimension}" (toString n))

/-- A canvas of the given size. The code runs in a context of its own, and its text is dropped. -/
def createCanvas (i : Invocation α) : Eval String := do
  let a ← i.validate
  let width ← Eval.ofExcept (dimension a "Width")
  let height ← Eval.ofExcept (dimension a "Height")
  let canvas ← Eval.makeCanvas width height
  let inner ← (i.context.loadScoped i.command.name).openCanvas canvas
  match i.argument? "Code" with
  | some code =>
    let _ ← code.resolve inner
    return ""
  | none => return ""

/-- The canvas of the context saved under a path within the output directory (`render`). -/
def renderCanvas (context : Context α) (a : Arguments) : Eval String := do
  let path := context.config.resolveOutput (← Eval.ofExcept (a.string "Path"))
  context.withCanvas a.command (Edit.render path)
  return ""

/-- How an action is carried out. -/
def Action.handler : Action → Handler α
  | setVariable => .resolved Standard.setVariable
  | getVariable => .resolved Standard.getVariable
  | createCanvas => .deferred Standard.createCanvas
  | renderCanvas => .resolved Standard.renderCanvas
  | addArc => .canvas (addLayer arc)
  | addCircle => .canvas (addLayer circle)
  | addEllipse => .canvas (addLayer ellipse)
  | addEllipseImage => .canvas (addLayer ellipseImage)
  | addText => .canvas (addLayer lettering)
  | createOutline => .canvas Standard.createOutline
  | loadFont => .canvas Standard.loadFont

instance : Behaviour Action := ⟨Action.handler⟩

end CanvasScript.Standard
