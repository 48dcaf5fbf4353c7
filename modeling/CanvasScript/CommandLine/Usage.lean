import CanvasScript.CommandLine.Task

/-!
# Help

What the program says about itself and about command lines that it does not carry out.

* `usage`: the commands and their switches.
* `UsageFault.report`, `UsageFault.isAnswered`: what is said instead of carrying out a task, and
  whether that is all that was asked for.
-/

namespace CanvasScript.CommandLine

/-- The name and the version of the program. -/
def versionLine : String := "easel 0.4.1\n"

/-- The commands and their switches. -/
def usage : String :=
  String.join
    ["Canvases described in script text, rendered as images\n\n",
      "Usage:\n",
      "  easel render [paths] [--config file] [-o directory | --output directory]\n",
      "  easel commands [--json] [--config file]\n",
      "  easel init [directory] [--output directory] [--force]\n",
      "  easel completions shell\n\n",
      "Switches of all commands:\n",
      "  -v, --verbose\n",
      "  -h, --help\n",
      "  -V, --version (without a command)\n"]

namespace UsageFault

/-- The cause in words. -/
def message : UsageFault → String
  | helpWanted | versionWanted | nothingGiven => ""
  | commandMissing => "a command is missing"
  | commandUnknown => "there is no such command"
  | argumentUnknown => "an argument is unknown"
  | valueRefused => "a value is missing, empty or not allowed"
  | valueNotTaken => "a value was given to a switch that takes none"
  | repeated => "a switch was given twice"
  | operandMissing => "an argument is missing"

/-- What is said instead of carrying out a task. -/
def report : UsageFault → String
  | versionWanted => versionLine
  | helpWanted | nothingGiven => usage
  | fault => "error: " ++ fault.message ++ "\n\n" ++ usage

/-- What is said is what was asked for. -/
def isAnswered : UsageFault → Bool
  | helpWanted | versionWanted => true
  | _ => false

end UsageFault

end CanvasScript.CommandLine
