import CanvasScript.Canvas.Identifier
import CanvasScript.Fault
import CanvasScript.Storage.FileSystem

/-!
# What the program prints

Results go to the output, and news about the work to the messages, one line each: a verb in a
column of its own, in colour on a terminal, and a text.

* `Tone`, `messageLine`: one line of news.
* `plural`, `shownPath`: parts of such lines.
* `Console`: files, identifiers, and all that has been printed.
* `Job`: a step that prints and changes files, and may fail.
-/

namespace CanvasScript.CommandLine

open Canvas Storage

/-! ## Lines -/

/-- The kind of a piece of news. -/
inductive Tone where
  | status
  | success
  | info
  | warning
  | error
deriving DecidableEq, Repr

/-- The escape sequence that terminals read between the bracket and the final letter. -/
def escape (code : String) : String := "\x1b[" ++ code ++ "m"

/-- The code of the colour of a tone. -/
def Tone.code : Tone → String
  | status | success => "32"
  | info => "36"
  | warning => "33"
  | error => "31"

/-- The width of the column of verbs. -/
def verbWidth : Nat := 12

/-- A word moved to the right end of a column. -/
def padded (width : Nat) (word : String) : String :=
  String.ofList (List.replicate (width - word.length) ' ') ++ word

/-- One line of news (`print_line`). -/
def messageLine (terminal : Bool) (tone : Tone) (verb text : String) : String :=
  let verb := padded verbWidth verb
  (if terminal then escape "1" ++ escape tone.code ++ verb ++ escape "0" else verb) ++
    " " ++ text ++ "\n"

/-- A text in the background. -/
def dim (terminal : Bool) (text : String) : String :=
  if terminal then escape "2" ++ text ++ escape "0" else text

/-- A count with the word for what is counted. -/
def plural (n : Nat) (one many : String) : String :=
  toString n ++ " " ++ (if n = 1 then one else many)

/-- The path of a place. -/
def placePath (p : Place) : FilePath := ⟨"/" ++ "/".intercalate p⟩

/-- A path as the user sees it: from the working directory on, if it leads there (`display_path`).
-/
def shownPath (fs : FileSystem) (p : FilePath) : String :=
  match p.relativeTo? (placePath fs.working) with
  | some rest => if rest.text.isEmpty then "." else rest.text
  | none => p.text

/-! ## Jobs -/

/-- What a run of the program reads and writes. -/
structure Console where
  files : FileSystem
  ids : IdSupply
  /-- Messages go to a terminal. -/
  terminal : Bool := false
  output : String := ""
  messages : String := ""

/-- A step of a run of the program. What was printed stays printed when a step fails. -/
abbrev Job := ExceptT Fault (StateM Console)

namespace Job

/-- A step that is a value or a fault. -/
def ofExcept {α : Type} (e : Except Fault α) : Job α := fun c => (e, c)

/-- A line of output. -/
def print (line : String) : Job Unit :=
  modify fun c => { c with output := c.output ++ line ++ "\n" }

/-- A line of news. -/
def tell (tone : Tone) (verb text : String) : Job Unit :=
  modify fun c => { c with messages := c.messages ++ messageLine c.terminal tone verb text }

/-- A line of news about a path. -/
def tellPath (tone : Tone) (verb : String) (p : FilePath) : Job Unit := do
  tell tone verb (shownPath (← get).files p)

/-- A step of the file system whose fault is one of a file. -/
def store {α : Type} (p : FilePath) (what : String) (s : FileSystem.Storing α) : Job α := fun c =>
  match s.run c.files with
  | (.ok a, files) => (.ok a, { c with files })
  | (.error e, files) => (.error (.file p.text (what ++ ": " ++ e.reason)), { c with files })

end Job

end CanvasScript.CommandLine
