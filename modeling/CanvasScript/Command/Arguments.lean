import CanvasScript.Command.Value

/-!
# Validated arguments

* `Arguments`: the values of one call, by parameter name.
* `integer`, `float`, `boolean`, `string`, `colour`: the value of the expected type, or a fault
  of the command; `string?` and `list` never fail.
-/

namespace CanvasScript.Command

/-- The arguments of a call of `command`, in the order of its parameters (`Args`). -/
structure Arguments where
  command : String
  values : List (String × Value)

namespace Arguments

variable (a : Arguments)

/-- The first value with a name. -/
def get? (name : String) : Option Value :=
  a.values.lookup name

/-- The fault of an argument that is not of the expected type. -/
def missing (name expected : String) : Fault :=
  .argument a.command (name ++ " " ++ expected) ""

/-- A whole number. -/
def integer (name : String) : Except Fault Int :=
  match a.get? name with
  | some (.integer n) => .ok n
  | _ => .error (a.missing name "number")

/-- A number. -/
def float (name : String) : Except Fault Float :=
  match a.get? name with
  | some (.float x) => .ok x
  | some (.integer n) => .ok (Float.ofInt n)
  | _ => .error (a.missing name "number")

/-- A truth value. -/
def boolean (name : String) : Except Fault Bool :=
  match a.get? name with
  | some (.boolean b) => .ok b
  | _ => .error (a.missing name "boolean")

/-- A text, `none` when it was left out (`optional_string`). -/
def string? (name : String) : Option String :=
  (a.get? name).bind Value.string?

/-- A text. -/
def string (name : String) : Except Fault String :=
  match a.string? name with
  | some s => .ok s
  | none => .error (a.missing name "text")

/-- A colour. -/
def colour (name : String) : Except Fault Colour :=
  match a.get? name with
  | some (.colour c) => .ok c
  | _ => .error (a.missing name "hex colour")

/-- The items of a variadic argument. -/
def list (name : String) : List Value :=
  match a.get? name with
  | some (.list items) => items
  | _ => []

end Arguments

end CanvasScript.Command
