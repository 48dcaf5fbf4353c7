import CanvasScript.Run.Context

/-!
# What commands do

* `Delayed`: an argument of a call, as it stands and as it can be evaluated.
* `Invocation`: a call with the command it is a call of and the context it stands in.
* `Invocation.validate`: the arguments of a call, evaluated from left to right and converted;
  those of script parameters are taken as they stand.
* `Handler`: the three ways in which a command is carried out.
* `Behaviour`: the handler of every action.
* `Handler.run`: one call carried out.
-/

namespace CanvasScript.Run

open Command

/-- An argument that has not been evaluated. -/
structure Delayed (α : Type) where
  /-- The argument as it stands in the script. -/
  source : String
  /-- Its evaluation in a context. -/
  resolve : Context α → Eval String

/-- A call in progress. -/
structure Invocation (α : Type) where
  command : Definition α
  arguments : List (Delayed α)
  context : Context α

namespace Invocation

variable {α : Type} (i : Invocation α)

/-- The raw text of an argument, which the parameter at an index takes. -/
def rawText (index : Nat) (a : Delayed α) : Eval String :=
  match i.command.parameterAt? index with
  | some p => if p.kind = .script then pure a.source else a.resolve i.context
  | none => a.resolve i.context

/-- The raw texts of arguments from an index on. -/
def rawTexts (index : Nat) : List (Delayed α) → Eval (List String)
  | [] => pure []
  | a :: as => do
    let text ← i.rawText index a
    let texts ← rawTexts (index + 1) as
    return text :: texts

/-- The arguments of the call. -/
def validate : Eval Arguments := do
  Eval.ofExcept (i.command.validate (← i.rawTexts 0 i.arguments))

/-- The argument in the place of the parameter with a name (`script`). -/
def argument? (name : String) : Option (Delayed α) :=
  match i.command.parameters.findIdx? (·.name == name) with
  | some index => i.arguments[index]?
  | none => none

end Invocation

/-- How a command is carried out. -/
inductive Handler (α : Type) where
  /-- The command evaluates its arguments itself. -/
  | deferred (run : Invocation α → Eval String)
  /-- The command gets its arguments, and gives a text. -/
  | resolved (run : Context α → Arguments → Eval String)
  /-- The command gets its arguments, and changes the canvas. -/
  | canvas (run : Arguments → Edit Unit)

/-- The word for the way of a handler. -/
def Handler.label {α : Type} : Handler α → String
  | deferred _ => "Deferred"
  | resolved _ => "Resolved"
  | canvas _ => "Canvas"

/-- The arguments are evaluated before the handler is called. -/
def Handler.resolvesArguments {α : Type} : Handler α → Bool
  | deferred _ => false
  | _ => true

/-- Every action has a handler. -/
class Behaviour (α : Type) where
  handler : α → Handler α

/-- One call carried out. Faults about arguments that come from the handler itself are attributed
to the command. -/
def Handler.run {α : Type} (h : Handler α) (i : Invocation α) : Eval String :=
  match h with
  | deferred run => run i
  | resolved run => do
    let args ← i.validate
    (run i.context args).inCommand i.command.name
  | canvas run => do
    let args ← i.validate
    (i.context.withCanvas i.command.name (run args)).inCommand i.command.name
    return ""

end CanvasScript.Run
