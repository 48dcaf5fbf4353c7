/-!
# Arguments on a command line

* `Switch`: what begins with a hyphen; some switches take a value.
* `Operand`: what is given without a switch.
* `Grammar`: the switches and operands of a command, and the names of the commands below it.
* `UsageFault`: why a command line cannot be carried out; asking for help is among the reasons.
* `Grammar.read`: the arguments one after the other. A value is looked at once the next switch or
  operand is known to be one, so an unknown switch is reported before the value in front of it.
* `Given`: what was given, by switch.
-/

namespace CanvasScript.CommandLine

/-- Why a command line is not carried out. -/
inductive UsageFault where
  /-- Help was asked for. -/
  | helpWanted
  /-- The version was asked for. -/
  | versionWanted
  /-- Nothing was given where a command is needed. -/
  | nothingGiven
  | commandMissing
  | commandUnknown
  | argumentUnknown
  /-- A value is missing, empty or not one of those allowed. -/
  | valueRefused
  /-- A value was given to a switch that takes none. -/
  | valueNotTaken
  /-- A switch was given twice. -/
  | repeated
  | operandMissing
deriving DecidableEq, Repr

/-- What a switch is for. -/
inductive Purpose where
  /-- It is on or off. -/
  | flag
  /-- It takes a value. -/
  | value
  | help
  | version
deriving DecidableEq, Repr

/-- A switch, spelt with two hyphens and a word, or one hyphen and a letter. -/
structure Switch where
  long : String
  short? : Option Char := none
  purpose : Purpose := .flag
deriving DecidableEq, Repr

/-- What is given without a switch. -/
structure Operand where
  /-- There may be any number of them. -/
  many : Bool := false
  required : Bool := false
  /-- The only values, if they are listed; otherwise all that are not empty. -/
  allowed? : Option (List String) := none

/-- What can be given to a command. -/
structure Grammar where
  switches : List Switch
  operand? : Option Operand := none
  /-- The names of the commands below this one. -/
  commands : List String := []

/-- What was given to a command. -/
structure Given where
  /-- The switches by their long names, with their values. -/
  switches : List (String × String) := []
  operands : List String := []

namespace Given

/-- The value of a switch. -/
def value? (g : Given) (long : String) : Option String := g.switches.lookup long

/-- A switch was given. -/
def has (g : Given) (long : String) : Bool := (g.value? long).isSome

end Given

/-- What has been given and not yet been looked at. -/
inductive Pending where
  | nothing
  | switch (s : Switch) (value? : Option String)
  | operands (values : List String)

/-- What has been read. -/
structure Reader where
  given : Given := {}
  pending : Pending := .nothing
  /-- The next argument is a value unless it is a switch. -/
  expectsValue : Bool := false
  /-- Hyphens have lost their meaning. -/
  escaped : Bool := false

namespace Grammar

variable (g : Grammar)

/-- A value that an operand may have. -/
def allows (value : String) : Bool :=
  match g.operand?.bind (·.allowed?) with
  | some values => values.contains value
  | none => !value.isEmpty

/-- A switch given with a value, which is empty for flags. -/
def record (s : Switch) (value : String) (r : Reader) : Except UsageFault Reader :=
  if r.given.has s.long then .error .repeated
  else if s.purpose = .value ∧ value.isEmpty then .error .valueRefused
  else
    .ok { r with given := { r.given with switches := r.given.switches ++ [(s.long, value)] } }

/-- What is pending is looked at. -/
def settle (r : Reader) : Except UsageFault Reader :=
  let cleared := { r with pending := .nothing }
  match r.pending with
  | .nothing => .ok r
  | .switch _ none => .error .valueRefused
  | .switch s (some value) => record s value cleared
  | .operands values =>
    if values.all g.allows then
      .ok { cleared with given := { r.given with operands := r.given.operands ++ values } }
    else .error .valueRefused

/-- A switch without a value of its own. -/
def raise (s : Switch) (r : Reader) : Except UsageFault Reader := do
  let r ← g.settle r
  match s.purpose with
  | .help => .error .helpWanted
  | .version => .error .versionWanted
  | .flag | .value => record s "" { r with expectsValue := false }

/-- A switch with a value: the one attached to it, or else the next argument. -/
def expect (s : Switch) (attached? : Option String) (r : Reader) : Except UsageFault Reader := do
  let r ← g.settle r
  match attached? with
  | some value => record s value { r with expectsValue := false }
  | none => .ok { r with pending := .switch s none, expectsValue := true }

/-- The word behind two hyphens, and the value behind an equals sign. -/
def splitLong (cs : List Char) : String × Option String :=
  let word := String.ofList (cs.takeWhile (· != '='))
  match cs.dropWhile (· != '=') with
  | [] => (word, none)
  | _ :: value => (word, some (String.ofList value))

/-- An argument that begins with two hyphens. -/
def readLong (cs : List Char) (r : Reader) : Except UsageFault Reader :=
  let (word, attached?) := splitLong cs
  match g.switches.find? (·.long == word) with
  | none => .error .argumentUnknown
  | some s =>
    if s.purpose = .value then g.expect s attached? r
    else if attached?.isSome then .error .valueNotTaken
    else g.raise s r

/-- The letters behind one hyphen. -/
def readShort : List Char → Reader → Except UsageFault Reader
  | [], r => .ok r
  | c :: cs, r =>
    match g.switches.find? (·.short? == some c) with
    | none => .error .argumentUnknown
    | some s =>
      if s.purpose = .value then
        g.expect s (match cs with
          | [] => none
          | '=' :: value => some (String.ofList value)
          | value => some (String.ofList value)) r
      else do readShort cs (← g.raise s r)

/-- The operands that can still be given. -/
def takesOperand (r : Reader) : Bool :=
  match g.operand? with
  | none => false
  | some o =>
    o.many ||
      r.given.operands.isEmpty && (match r.pending with | .operands _ => false | _ => true)

/-- The fault of an argument that nothing takes. -/
def refused (r : Reader) (arg : String) : UsageFault :=
  if g.commands.isEmpty || (r.escaped && g.commands.contains arg) then .argumentUnknown
  else .commandUnknown

/-- An argument without a switch. -/
def readOperand (arg : String) (r : Reader) : Except UsageFault Reader :=
  if !g.takesOperand r then .error (g.refused r arg)
  else
    match r.pending with
    | .operands values => .ok { r with pending := .operands (values ++ [arg]) }
    | _ => do
      let r ← g.settle r
      .ok { r with pending := .operands [arg], expectsValue := false }

/-- The value that was expected. -/
def readValue (arg : String) (r : Reader) : Except UsageFault Reader :=
  match r.pending with
  | .switch s _ => .ok { r with pending := .switch s (some arg), expectsValue := false }
  | _ => g.readOperand arg r

/-- An argument that is no command name. -/
def readArgument (arg : String) (r : Reader) : Except UsageFault Reader :=
  if r.escaped then g.readOperand arg r
  else
    match arg.toList with
    | ['-', '-'] => .ok { r with escaped := true }
    | '-' :: '-' :: cs => g.readLong cs r
    | '-' :: c :: cs => g.readShort (c :: cs) r
    | _ => if r.expectsValue then g.readValue arg r else g.readOperand arg r

/-- The argument is the name of a command below this one. -/
def isCommand (arg : String) (r : Reader) : Bool :=
  !r.escaped && !r.expectsValue && g.commands.contains arg

/-- The arguments up to the name of a command: what was given, and that name with the arguments
behind it. -/
def readFrom (r : Reader) : List String → Except UsageFault (Reader × Option (String × List String))
  | [] => .ok (r, none)
  | arg :: args =>
    if g.isCommand arg r then .ok (r, some (arg, args))
    else do readFrom (← g.readArgument arg r) args

/-- The operand that the grammar requires is there. -/
def checkOperand (given : Given) : Except UsageFault Given :=
  if g.operand?.any (·.required) && given.operands.isEmpty then .error .operandMissing
  else .ok given

/-- The arguments of a command that has none below it. -/
def read (args : List String) : Except UsageFault Given := do
  let (r, _) ← g.readFrom {} args
  g.checkOperand (← g.settle r).given

end Grammar

end CanvasScript.CommandLine
