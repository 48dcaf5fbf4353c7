import CanvasScript.Colour
import CanvasScript.Number.Shortest

/-!
# Argument values

* `Value`: what an argument is converted to.
* `Value.text`: a value as a script shows it; the items of a list are joined by semicolons.
-/

namespace CanvasScript.Command

/-- A typed argument. -/
inductive Value where
  /-- An optional argument that was left out and has no default. -/
  | absent
  | integer (n : Int)
  | float (x : Float)
  | boolean (b : Bool)
  | string (s : String)
  | colour (c : Colour)
  /-- The arguments collected by a variadic parameter. -/
  | list (items : List Value)
deriving Inhabited

namespace Value

/-- The argument was left out. -/
def isAbsent : Value → Bool
  | absent => true
  | _ => false

/-- The text of a text value. -/
def string? : Value → Option String
  | string s => some s
  | _ => none

mutual

/-- A value as a script shows it. -/
def text : Value → String
  | absent => ""
  | integer n => toString n
  | float x => Number.doubleText x
  | boolean b => if b then "true" else "false"
  | string s => s
  | colour c => c.text
  | list items => ";".intercalate (texts items)

/-- The values of a list, each as a script shows it. -/
def texts : List Value → List String
  | [] => []
  | v :: vs => v.text :: texts vs

end

end Value

end CanvasScript.Command
