import CanvasScript.Settings.Config
import CanvasScript.Storage.FileSystem
import CanvasScript.Text.Blank
import CanvasScript.Yaml.Node
import CanvasScript.Yaml.Writing

/-!
# Settings files

* `Config.parse`: settings from a document. Every setting may be left out; unknown ones are passed
  over, and a setting given twice is refused.
* `Config.toYaml`: the document of settings.
* `Config.load`, `Config.discover`: the settings of a file, and those of a directory, which may
  have none.
-/

namespace CanvasScript.Settings

open Storage Yaml

namespace Config

/-! ## Documents -/

/-- The text of a scalar. -/
def textOf? : Node → Option String
  | .scalar s _ => some s
  | _ => none

/-- The texts of a sequence; nothing at all stands for none. -/
def textsOf? : Node → Option (List String)
  | .sequence items => items.mapM textOf?
  | .scalar "" true => some []
  | _ => none

/-- Settings with those of the pairs put in, `seen` being the keys that have been put in. -/
def ofPairs? (c : Config) (seen : List String) : List (Node × Node) → Option Config
  | [] => some c
  | (key, value) :: pairs => do
    let name ← textOf? key
    if seen.contains name then none
    else
      match name with
      | "output" => ofPairs? { c with output := ⟨← textOf? value⟩ } (name :: seen) pairs
      | "disable" => ofPairs? { c with disabled := ← textsOf? value } (name :: seen) pairs
      | "extension" => ofPairs? { c with extension := ← textOf? value } (name :: seen) pairs
      | _ => ofPairs? c seen pairs

/-- The settings that a node describes. -/
def ofNode? : Node → Option Config
  | .mapping pairs => ofPairs? {} [] pairs
  | .scalar "" true => some {}
  | _ => none

/-- The settings that a text describes. -/
def ofText? (s : String) : Option Config := do
  match ← Node.ofText? s with
  | some n => ofNode? n
  | none => some {}

/-- The settings that a text describes; a blank one describes none. -/
def parse (s : String) : Except Fault Config :=
  if Text.allBlank s then .ok {}
  else
    match ofText? s with
    | some c => .ok c
    | none => .error (.config .malformed)

/-- The document of settings. -/
def toYaml (c : Config) : String :=
  "output: " ++ write c.output.text ++
    (if c.disabled.isEmpty then "disable: []\n"
      else "disable:\n" ++ String.join (c.disabled.map fun name => "- " ++ write name)) ++
    "extension: " ++ write c.extension

/-! ## Files -/

/-- The settings of a file. -/
def load (fs : FileSystem) (p : FilePath) : Except Fault Config :=
  match fs.readText p with
  | .ok s => parse s
  | .error e => .error (.file p.text ("Failed to read config: " ++ e.reason))

/-- The settings of a directory. A relative output directory is taken from there. -/
def discover (fs : FileSystem) (directory : FilePath) : Except Fault Config := do
  let p := directory.child settingsFileName
  if fs.isFile p then
    let c ← load fs p
    .ok { c with output := directory.join c.output }
  else .ok {}

end Config

end CanvasScript.Settings
