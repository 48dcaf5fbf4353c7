import CanvasScript.CommandLine.Grammar
import CanvasScript.Storage.FilePath

/-!
# Tasks

* `Task`: what the program is asked to do, with what it needs for that.
* `Request.ofArguments`: the task that the arguments of the program describe.
-/

namespace CanvasScript.CommandLine

open Storage

/-- What the program is asked to do. -/
inductive Task where
  /-- Scripts evaluated and their canvases rendered. -/
  | render (paths : List FilePath) (config? output? : Option FilePath)
  /-- The commands listed, possibly for other programs. -/
  | commands (json : Bool) (config? : Option FilePath)
  /-- A settings file written. -/
  | init (directory : FilePath) (output? : Option FilePath) (force : Bool)
  /-- Completions for a shell written. -/
  | completions (shell : String)

/-- A task, and whether the user wants to be told more about it. -/
structure Request where
  verbose : Bool
  task : Task

namespace Request

/-! ## Grammars -/

/-- The switch that makes the program tell more. -/
def verboseSwitch : Switch := { long := "verbose", short? := some 'v' }

/-- The switch that asks for help. -/
def helpSwitch : Switch := { long := "help", short? := some 'h', purpose := .help }

/-- The switch that asks for the version. -/
def versionSwitch : Switch := { long := "version", short? := some 'V', purpose := .version }

/-- The switch that names a settings file. -/
def configSwitch : Switch := { long := "config", purpose := .value }

/-- The switches that every command has. -/
def common : List Switch := [verboseSwitch, helpSwitch]

/-- The program itself. -/
def program : Grammar where
  switches := versionSwitch :: common
  commands := ["render", "commands", "init", "completions", "help"]

/-- Rendering. -/
def renderGrammar : Grammar where
  switches := configSwitch :: { long := "output", short? := some 'o', purpose := .value } :: common
  operand? := some { many := true }

/-- Listing. -/
def commandsGrammar : Grammar where
  switches := { long := "json" } :: configSwitch :: common

/-- Starting a project. -/
def initGrammar : Grammar where
  switches := { long := "output", purpose := .value } :: { long := "force" } :: common
  operand? := some {}

/-- The shells that completions can be written for. -/
def shells : List String := ["bash", "elvish", "fish", "powershell", "zsh"]

/-- Writing completions. -/
def completionsGrammar : Grammar where
  switches := common
  operand? := some { required := true, allowed? := some shells }

/-! ## Tasks from arguments -/

/-- The path that a switch gives. -/
def path? (g : Given) (long : String) : Option FilePath := (g.value? long).map FilePath.mk

/-- A request for a task. -/
def ofGiven (g : Given) (task : Task) : Request := ⟨g.has verboseSwitch.long, task⟩

/-- Help about a command, if it is one. -/
def help (args : List String) : UsageFault :=
  match args with
  | [] => .helpWanted
  | [name] => if program.commands.contains name then .helpWanted else .commandUnknown
  | _ => .commandUnknown

/-- The request of a command with its arguments. -/
def ofCommand (name : String) (args : List String) : Except UsageFault Request :=
  match name with
  | "render" => do
    let g ← renderGrammar.read args
    return ofGiven g (.render (g.operands.map FilePath.mk) (path? g "config") (path? g "output"))
  | "commands" => do
    let g ← commandsGrammar.read args
    return ofGiven g (.commands (g.has "json") (path? g "config"))
  | "init" => do
    let g ← initGrammar.read args
    return ofGiven g
      (.init ⟨g.operands.headD "."⟩ (path? g "output") (g.has "force"))
  | "completions" => do
    let g ← completionsGrammar.read args
    return ofGiven g (.completions (g.operands.headD ""))
  | _ => .error (help args)

/-- What to say when no command is named. -/
def withoutCommand (g : Given) : UsageFault :=
  if g.switches.isEmpty then .nothingGiven else .commandMissing

/-- The request that the arguments of the program describe. -/
def ofArguments (args : List String) : Except UsageFault Request := do
  let (r, command?) ← program.readFrom {} args
  match command? with
  | some (name, args) =>
    let request ← ofCommand name args
    return { request with verbose := request.verbose || r.given.has verboseSwitch.long }
  | none => .error (withoutCommand r.given)

end Request

end CanvasScript.CommandLine
