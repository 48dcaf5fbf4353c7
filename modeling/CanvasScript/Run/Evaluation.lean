import CanvasScript.Run.Handler

/-!
# Evaluating scripts

* `Node.pieces`, `Argument.delayAll`: the texts that nodes stand for, and the arguments of a call
  ready to be evaluated. Nodes are evaluated from left to right, calls from the inside out.
* `evaluate`: nodes in a context, as one text.
* `Evaluation`: what a script leaves behind, its text and its canvases.
* `evaluateScript`: a script read and evaluated in a context of its own.
-/

namespace CanvasScript.Run

open Command Script Settings

variable {α : Type} [Behaviour α]

/-- A call by name (`call`). A name without brackets that is no command stands for itself. -/
def callByName (name : String) (bracketed : Bool) (span : Span Location)
    (arguments : List (Delayed α)) (context : Context α) : Eval String :=
  match context.lookup? name with
  | some command =>
    (Behaviour.handler command.action).run { command, arguments, context }
  | none =>
    if bracketed then
      throw (.unknownCommand name span.start ((context.registry.get? name).bind (·.parent?)))
    else pure name

mutual

/-- The text of a node. -/
def evaluateNode : Node Location → Context α → Eval String
  | .text content, _ => pure content
  | .mention name span, context => callByName name false span [] context
  | .call name arguments span, context =>
    callByName name true span (delayAll arguments) context

/-- The texts of nodes. -/
def pieces : List (Node Location) → Context α → Eval (List String)
  | [], _ => pure []
  | n :: ns, context => do
    let text ← evaluateNode n context
    let texts ← pieces ns context
    return text :: texts

/-- An argument ready to be evaluated. -/
def delay : Argument Location → Delayed α
  | ⟨nodes, source, _⟩ =>
    { source, resolve := fun context => do return String.join (← pieces nodes context) }

/-- Arguments ready to be evaluated. -/
def delayAll : List (Argument Location) → List (Delayed α)
  | [] => []
  | a :: as => delay a :: delayAll as

end

/-- Nodes in a context, as one text (`resolve`). -/
def evaluate (nodes : List (Node Location)) (context : Context α) : Eval String := do
  return String.join (← pieces nodes context)

/-- A script in a context, as one text. -/
def evaluateSource (source : String) (context : Context α) : Eval String := do
  evaluate (← Eval.ofExcept (Script.read source)) context

/-- What a script leaves behind. -/
structure Evaluation where
  output : String
  /-- The canvases it opened, in order. -/
  canvases : List Canvas

/-- A script in a context of its own (`Evaluator.evaluate`). -/
def evaluateScript (registry : Registry α) (config : Config) (source : String) :
    Eval Evaluation := do
  let context := Context.root registry config
  let output ← evaluateSource source context
  return { output, canvases := ← context.canvases }

end CanvasScript.Run
