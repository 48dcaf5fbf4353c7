import CanvasScript.Command.Value
import CanvasScript.Number.Reading
import CanvasScript.Text.Blank

/-!
# Parameters

A parameter declares one argument of a command: its type, whether it may be left out, and which
values it takes.

* `Kind`: the type of a parameter, with its name in usage lines and in messages.
* `Parameter`: a declaration.
* `Parameter.convert`: the value that a raw argument stands for.
* `Parameter.usage`: the parameter as a usage line shows it.
-/

namespace CanvasScript.Command

/-- The type of a parameter (`ParamType`). -/
inductive Kind where
  /-- A decimal number, cut off at the point. -/
  | integer
  | float
  | string
  /-- `true` or `false` in any case of letters. -/
  | boolean
  /-- A colour spelt `#RGB` or `#RRGGBB`. -/
  | colour
  /-- A piece of script that is handed on as it stands. -/
  | script
  /-- Any text. -/
  | unknown
deriving DecidableEq, Repr

namespace Kind

/-- The name of the type in a usage line. -/
def label : Kind → String
  | integer | float => "number"
  | string => "string"
  | boolean => "boolean"
  | colour => "colour"
  | script => "script"
  | unknown => "unknown"

/-- The name of the type in a message about a value that is not of it. -/
def expected : Kind → String
  | integer | float => "number"
  | boolean => "boolean (true or false)"
  | colour => "hex colour (#RGB or #RRGGBB)"
  | string | script | unknown => "text"

end Kind

/-- The declaration of one argument (`ParameterDefinition`). -/
structure Parameter where
  name : String
  kind : Kind
  required : Bool := false
  /-- The raw text that stands in for a missing or blank argument. -/
  default? : Option String := none
  description : String := ""
  /-- The only values that are accepted, if they are listed. -/
  allowed? : Option (List String) := none
  /-- Blanks around the argument belong to it. -/
  verbatim : Bool := false
  /-- The parameter takes all arguments from its place on. -/
  variadic : Bool := false

/-! ## Plain numbers -/

/-- The characters of plain numbers: no blanks, no names of infinities, no other bases. -/
def isNumberChar (c : Char) : Bool :=
  c.isDigit || c == '-' || c == '+' || c == '.' || c == 'e' || c == 'E'

/-- The finite number that a text stands for (`parse_number`). -/
def number? (s : String) : Option Float :=
  if s.toList.all isNumberChar then Number.readFinite? s else none

/-- Whole numbers are accepted while they are smaller than this. -/
def integerLimit : Nat := 9223372036854775808

namespace Kind

/-- The value of this type that a text stands for. -/
def value? (k : Kind) (s : String) : Option Value :=
  match k with
  | integer => do
    let n := Number.wholePart (← number? s)
    if n.natAbs < integerLimit then some (.integer n) else none
  | float => (number? s).map .float
  | boolean =>
    let word := Text.foldAscii s
    if word = "true" then some (.boolean true)
    else if word = "false" then some (.boolean false)
    else none
  | colour => (Colour.parse s).toOption.map .colour
  | string | script | unknown => some (.string s)

end Kind

namespace Parameter

/-- The text to be converted: the argument, trimmed unless `verbatim`, or else the default. A
blank argument counts as missing. -/
def given? (p : Parameter) (raw? : Option String) : Option String :=
  match raw? with
  | some raw =>
    if Text.allBlank raw then p.default?
    else some (if p.verbatim then raw else Text.trim raw)
  | none => p.default?

/-- The value of a text under the declared type and the listed values. -/
def accept (p : Parameter) (command text : String) : Except Fault Value :=
  match p.allowed? with
  | some allowed =>
    if allowed.contains text then convertText text
    else .error (.argument command (p.name ++ " one of " ++ ", ".intercalate allowed) text)
  | none => convertText text
where
  /-- The value of a text under the declared type. -/
  convertText (text : String) : Except Fault Value :=
    match p.kind.value? text with
    | some v => .ok v
    | none => .error (.argument command (p.name ++ " " ++ p.kind.expected) text)

/-- The value of a raw argument of `command`, `none` standing for one that is not there. -/
def convert (p : Parameter) (command : String) (raw? : Option String) : Except Fault Value :=
  match p.given? raw? with
  | some text => p.accept command text
  | none =>
    if p.required then .error (.argument command (p.name ++ " (required)") (raw?.getD ""))
    else .ok .absent

/-! ## Usage -/

/-- A word with its first letter made a capital. -/
def capitalised (word : String) : String :=
  match word.toList with
  | [] => ""
  | c :: cs => String.ofList (Text.upperChar c ++ cs)

/-- The words of a name in small letters, joined with a capital at each seam. -/
def camelCase (name : String) : String :=
  match (Text.words name).map Text.lower with
  | [] => ""
  | word :: words => word ++ String.join (words.map capitalised)

/-- The parameter as a usage line shows it, such as `filled?: boolean`. -/
def usage (p : Parameter) : String :=
  (if p.variadic then "..." else "") ++ camelCase p.name ++
    (if p.required || p.variadic then "" else "?") ++ ": " ++ p.kind.label

end Parameter

end CanvasScript.Command
