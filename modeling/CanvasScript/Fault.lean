import CanvasScript.Script.Location
import CanvasScript.Text.Quoted

/-!
# Faults

Everything that can go wrong, by cause. A fault says what happened; `Fault.message` and
`Fault.help?` say it to the reader.

* `ParseFault`: text that is not what it should be, in a script or as the name of a choice.
* `DefinitionFault`: a command definition that no registry accepts.
* `RenderFault`: fonts and images that cannot be read, images that cannot be written.
* `ConfigFault`: settings that cannot be read, or are there already.
* `Fault`: any of these, and the faults of single calls.
* `Fault.inCommand`: an argument fault attributed to the command whose argument it is.
-/

namespace CanvasScript

open Script (Location)

/-- Text that cannot be read. -/
inductive ParseFault where
  /-- A call whose bracket stays open. -/
  | unclosed (name : String) (position : Location)
  /-- A call inside `limit` others. -/
  | tooDeep (name : String) (position : Location) (limit : Nat)
  | hexColour (text : String)
  | hexDigit (digit : Char)
  | hexByte (text : String)
  /-- A word that is none of the choices for `what`. -/
  | unknownChoice (what text : String) (choices : List String)

/-- A command definition that cannot be registered. -/
inductive DefinitionFault where
  | name (command : String)
  | scopedToItself (command : String)
  | repeatedParameter (command parameter : String)
  | requiredWithDefault (command parameter : String)
  | variadicNotLast (command parameter : String)
  /-- The default is refused by its own parameter, for the given reason. -/
  | defaultRefused (command parameter reason : String)

/-- A picture that cannot be made. -/
inductive RenderFault where
  | fontUnreadable (path family reason : String)
  | fontInvalid (path : String)
  | fontMissing (family : String)
  | imageUnreadable (path reason : String)
  | imageRemote (source : String)
  | imageUnwritable (path reason : String)
  /-- A reason given by a command of its own accord. -/
  | other (reason : String)

/-- Settings that cannot be used. -/
inductive ConfigFault where
  | malformed
  | alreadyThere

/-- What can go wrong (`EaselError`). -/
inductive Fault where
  | system (reason : String)
  | file (path reason : String)
  | parse (fault : ParseFault)
  | argument (command expected received : String)
  | unknownCommand (name : String) (position : Location) (parent? : Option String)
  | scope (command reason : String)
  | definition (fault : DefinitionFault)
  | render (fault : RenderFault)
  | config (fault : ConfigFault)

/-- The settings file of a project. -/
def settingsFileName : String := "easel.yaml"

namespace ParseFault

/-- The cause in words. -/
def message : ParseFault → String
  | unclosed name position => "Unclosed `[` for " ++ name ++ " at " ++ position.text
  | tooDeep name position limit =>
    s!"{name} at {position.text} is nested more than {limit} calls deep"
  | hexColour text => "Invalid hex colour: " ++ text
  | hexDigit digit => "Invalid hex digit: " ++ String.singleton digit
  | hexByte text => "Invalid hex byte: " ++ text
  | unknownChoice what text _ => s!"Unknown {what}: {text}"

/-- What to do about it. -/
def help? : ParseFault → Option String
  | unclosed .. => some "Add a closing `]` or escape the bracket as `\\[`"
  | tooDeep .. => none
  | hexColour _ => some "Use #RGB or #RRGGBB format"
  | hexDigit _ | hexByte _ => none
  | unknownChoice _ _ choices => some ("Use one of: " ++ ", ".intercalate choices)

end ParseFault

namespace DefinitionFault

/-- The cause in words. -/
def message : DefinitionFault → String
  | name command => Text.quote command ++ " is not a `$name` command"
  | scopedToItself command => command ++ " cannot be scoped to itself"
  | repeatedParameter command parameter => s!"{command} declares {parameter} twice"
  | requiredWithDefault command parameter =>
    s!"{command}: required parameter {parameter} has a default"
  | variadicNotLast command parameter =>
    s!"{command}: variadic parameter {parameter} must be last"
  | defaultRefused command parameter reason =>
    s!"{command}: bad default for {parameter}: {reason}"

end DefinitionFault

namespace RenderFault

/-- The cause in words. -/
def message : RenderFault → String
  | fontUnreadable path _ reason => s!"Failed to read font {path}: {reason}"
  | fontInvalid path => s!"Invalid font file {path}: InvalidFont"
  | fontMissing family => s!"Font family {Text.quote family} is not loaded"
  | imageUnreadable path reason => s!"Failed to load image {path}: {reason}"
  | imageRemote source => s!"Remote images are not supported: {source}"
  | imageUnwritable path reason => s!"Failed to write {path}: {reason}"
  | other reason => reason

/-- What to do about it. -/
def help? : RenderFault → Option String
  | fontUnreadable _ family _ => some s!"Check the path given to $loadFont for {family}"
  | fontInvalid _ => some "Use a TrueType or OpenType font"
  | fontMissing family => some s!"Add $loadFont[{family};<path>] before the text layer"
  | imageUnreadable .. => none
  | imageRemote _ => some "Download the image and pass its local path or a file:// URL"
  | imageUnwritable .. => some "Check that the output location is writable"
  | other _ => none

end RenderFault

namespace ConfigFault

/-- The cause in words. -/
def message : ConfigFault → String
  | malformed => "Invalid config"
  | alreadyThere => settingsFileName ++ " already exists"

/-- What to do about it. -/
def help? : ConfigFault → Option String
  | malformed => some s!"Check {settingsFileName} syntax"
  | alreadyThere => some "Use --force to overwrite"

end ConfigFault

namespace Fault

/-- The message shown for a fault. -/
def message : Fault → String
  | system reason => "IO error: " ++ reason
  | file path reason => s!"IO error with {path}: {reason}"
  | parse fault => "Parse error: " ++ fault.message
  | argument command expected received =>
    s!"Invalid parameter in {command}: expected {expected}, received {Text.quote received}"
  | unknownCommand name position _ => s!"Unknown command: {name} at {position.text}"
  | scope command reason => s!"{command} used outside its scope: {reason}"
  | definition fault => "Invalid command definition: " ++ fault.message
  | render fault => "Render error: " ++ fault.message
  | config fault => "Config error: " ++ fault.message

/-- The advice shown with it, if there is any. -/
def help? : Fault → Option String
  | parse fault => fault.help?
  | unknownCommand name _ (some parent) => some s!"{name} is only available inside {parent}"
  | unknownCommand name _ none =>
    some ("Run `easel commands` to list commands, or write \\" ++ name ++ " for a literal")
  | render fault => fault.help?
  | config fault => fault.help?
  | _ => none

/-- An argument fault becomes one of the named command; other faults stay as they are. -/
def inCommand (name : String) : Fault → Fault
  | argument _ expected received => argument name expected received
  | fault => fault

end Fault

end CanvasScript
