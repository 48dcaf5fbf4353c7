import CanvasScript.Script.Reading

/-!
# Writing a script

* `escape`: literal text as a script spells it, a backslash before each character that would mean
  something else.
* `Node.write`, `Node.writeAll`: nodes as a script. What is written depends on the texts and the
  names alone, not on positions or on how the nodes were spelt when they were read.
-/

namespace CanvasScript.Script

variable {π : Type}

/-- A character as literal text. -/
def escapeChar (c : Char) : List Char :=
  if isSpecial c then ['\\', c] else [c]

/-- A text as literal text. -/
def escape (s : String) : String :=
  String.ofList (s.toList.flatMap escapeChar)

mutual

/-- A node as a script. -/
def Node.write : Node π → String
  | .text content => escape content
  | .mention name _ => name
  | .call name arguments _ => name ++ "[" ++ ";".intercalate (Argument.writeAll arguments) ++ "]"

/-- An argument as a script. -/
def Argument.write : Argument π → String
  | ⟨nodes, _, _⟩ => Node.writeAll nodes

/-- Arguments as scripts. -/
def Argument.writeAll : List (Argument π) → List String
  | [] => []
  | a :: as => a.write :: Argument.writeAll as

/-- Nodes as a script. -/
def Node.writeAll : List (Node π) → String
  | [] => ""
  | n :: ns => n.write ++ Node.writeAll ns

end

end CanvasScript.Script
