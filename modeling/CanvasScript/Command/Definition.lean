import CanvasScript.Command.Arguments
import CanvasScript.Command.Parameter
import CanvasScript.Script.Reading

/-!
# Command definitions

A command has a name, parameters, and an action that says what a call of it does. Definitions are
generic in the actions, so that registries and look-ups do not depend on them.

* `Definition`: a command.
* `Definition.key`, `Definition.matches`: how it is found.
* `Definition.parameterAt?`: the parameter that takes an argument.
* `Definition.validate`: the arguments of a call, from their raw texts.
* `Definition.check`: what a definition has to satisfy to be registered.
* `Summary`: a command as listings show it.
-/

namespace CanvasScript.Command

/-- A command whose calls perform `action` (`CommandDefinition`). -/
structure Definition (α : Type) where
  name : String
  action : α
  description : String := ""
  /-- The command within whose calls alone this one can be called. -/
  parent? : Option String := none
  parameters : List Parameter := []
  aliases : List String := []

namespace Definition

variable {α β : Type} (d : Definition α)

/-- The same command with another action. -/
def map (f : α → β) : Definition β :=
  { d with action := f d.action }

/-! ## Names -/

/-- The key of a name: names are told apart up to the case of letters. -/
def keyOf (name : String) : String := Text.lower name

/-- The key that the command is registered under. -/
def key : String := keyOf d.name

/-- The key of the parent. -/
def parentKey? : Option String := d.parent?.map keyOf

/-- The text is the name or an alias, up to the case of ASCII letters. -/
def «matches» (name : String) : Bool :=
  Text.sameFold d.name name || d.aliases.any (Text.sameFold · name)

/-- The text is a name that a script can call. -/
def isName (s : String) : Bool :=
  match s.toList with
  | '$' :: c :: cs => Script.startsName c && (c :: cs).all Script.continuesName
  | _ => false

/-! ## Parameters -/

/-- The last parameter, if it is variadic. -/
def variadic? : Option Parameter :=
  d.parameters.getLast?.filter (·.variadic)

/-- The parameter that takes the argument at an index (`param_at`). -/
def parameterAt? (index : Nat) : Option Parameter :=
  (d.parameters[index]?).or d.variadic?

/-- The command as a usage line shows it. -/
def usage : String :=
  d.name ++ "[" ++ ", ".intercalate (d.parameters.map Parameter.usage) ++ "]"

/-! ## Validation -/

/-- The values of the arguments that are not blank, under one parameter. -/
def collect (p : Parameter) (raw : List String) : Except Fault (List Value) :=
  (raw.filter (!Text.allBlank ·)).mapM fun r => p.convert d.name (some r)

/-- The value of one parameter, given the raw arguments from its place on. -/
def bind (p : Parameter) (raw : List String) : Except Fault Value :=
  if p.variadic then do
    let items ← d.collect p raw
    if items.isEmpty && p.required then
      .error (.argument d.name (p.name ++ " (at least one)") "")
    else .ok (.list items)
  else p.convert d.name raw.head?

/-- The values of parameters, given the raw arguments from the place of the first on. -/
def bindAll : List Parameter → List String → Except Fault (List (String × Value))
  | [], _ => .ok []
  | p :: ps, raw => do
    let value ← d.bind p raw
    let values ← bindAll ps raw.tail
    .ok ((p.name, value) :: values)

/-- The first argument that is not blank and that no parameter takes. -/
def surplus? (raw : List String) : Option String :=
  if d.variadic?.isSome then none
  else (raw.drop d.parameters.length).find? (!Text.allBlank ·)

/-- The arguments of a call, from their raw texts. -/
def validate (raw : List String) : Except Fault Arguments := do
  let values ← d.bindAll d.parameters raw
  match d.surplus? raw with
  | some extra => .error (.argument d.name s!"at most {d.parameters.length} arguments" extra)
  | none => .ok ⟨d.name, values⟩

/-! ## Registration -/

/-- What is wrong with a parameter that follows `earlier` and precedes `later`. -/
def parameterFault? (earlier : List Parameter) (p : Parameter) (later : List Parameter) :
    Option DefinitionFault :=
  if earlier.any (·.name == p.name) then some (.repeatedParameter d.name p.name)
  else if p.required && p.default?.isSome then some (.requiredWithDefault d.name p.name)
  else if p.variadic && !later.isEmpty then some (.variadicNotLast d.name p.name)
  else if p.default?.isSome then
    match p.convert d.name none with
    | .ok _ => none
    | .error fault => some (.defaultRefused d.name p.name fault.message)
  else none

/-- The first fault among parameters that follow `earlier`. -/
def parametersFault? (earlier : List Parameter) : List Parameter → Option DefinitionFault
  | [] => none
  | p :: ps =>
    (d.parameterFault? earlier p ps).or (parametersFault? (earlier ++ [p]) ps)

/-- What keeps the command from being registered. -/
def fault? : Option DefinitionFault :=
  if !isName d.name then some (.name d.name)
  else if d.parentKey? = some d.key then some (.scopedToItself d.name)
  else d.parametersFault? [] d.parameters

/-- The command can be registered. -/
def check : Except Fault Unit :=
  match d.fault? with
  | some fault => .error (.definition fault)
  | none => .ok ()

end Definition

/-- A command as listings show it (`CommandSummary`). -/
structure Summary where
  name : String
  parent? : Option String
  usage : String
  description : String
  aliases : List String

/-- The listing entry of a command. -/
def Definition.summary {α : Type} (d : Definition α) : Summary :=
  ⟨d.name, d.parent?, d.usage, d.description, d.aliases⟩

end CanvasScript.Command
