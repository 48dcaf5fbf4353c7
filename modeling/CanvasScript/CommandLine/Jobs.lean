import CanvasScript.CommandLine.Console
import CanvasScript.CommandLine.Listing
import CanvasScript.CommandLine.Scripts
import CanvasScript.CommandLine.Task
import CanvasScript.Run.Evaluation
import CanvasScript.Settings.File
import CanvasScript.Standard.Packs

/-!
# Carrying out tasks

* `render`: scripts evaluated one after the other, each in a world of its own but for the files.
  The first fault ends the job.
* `listCommands`: the commands under the settings.
* `initialise`: a settings file for a directory.
* `Task.run`: any task but writing completions.
-/

namespace CanvasScript.CommandLine

open Command Run Settings Storage

/-- The settings of a file, or else those of the working directory. -/
def settings (config? : Option FilePath) : Job Config := do
  let fs := (← get).files
  match config? with
  | some p => Job.ofExcept (Config.load fs p)
  | none => Job.ofExcept (Config.discover fs ⟨"."⟩)

/-! ## Rendering -/

/-- A script evaluated on the files as they are. -/
def evaluateFile (registry : Registry Standard.Action) (config : Config) (source : String) :
    Job Evaluation := fun c =>
  let (r, w) := (evaluateScript registry config source).run { files := c.files, ids := c.ids }
  (r, { c with files := w.files, ids := w.ids })

/-- The text of a script. -/
def readScript (p : FilePath) : Job String := do
  match (← get).files.readText p with
  | .ok s => return s
  | .error e => throw (.file p.text ("Failed to read script: " ++ e.reason))

/-- One script: its text is printed unless it is blank; the number of images it rendered. -/
def renderScript (registry : Registry Standard.Action) (config : Config) (p : FilePath) :
    Job Nat := do
  Job.tellPath .status "Evaluating" p
  let source ← readScript p
  let evaluation ←
    tryCatch (evaluateFile registry config source) fun fault => do
      Job.tellPath .error "Failed" p
      throw fault
  let text := Text.trim evaluation.output
  if text.isEmpty then pure () else Job.print text
  return evaluation.canvases.foldl (fun n canvas => n + canvas.renders) 0

/-- Scripts one after the other; the number of images they rendered. -/
def renderScripts (registry : Registry Standard.Action) (config : Config) : List FilePath → Job Nat
  | [] => return 0
  | p :: ps => do
    let images ← renderScript registry config p
    let others ← renderScripts registry config ps
    return images + others

/-- The last line of news about scripts. -/
def reportRendered (config : Config) (scripts images : Nat) : Job Unit := do
  let place := shownPath (← get).files config.output
  Job.tell .success "Finished"
    (plural scripts "script" "scripts" ++ ", " ++ plural images "image" "images" ++
      " written to " ++ place)

/-- The scripts that some paths lead to, or those of the working directory. -/
def render (paths : List FilePath) (config? output? : Option FilePath) : Job Unit := do
  let config ← settings config?
  let config := { config with output := output?.getD config.output }
  let paths := if paths.isEmpty then [⟨"."⟩] else paths
  let scripts ← Job.ofExcept (collectScripts (← get).files paths config.extension)
  if scripts.isEmpty then
    Job.tell .warning "Skipping" ("no ." ++ config.extension ++ " scripts found")
  else
    let registry ← Job.ofExcept (Standard.registry config)
    let images ← renderScripts registry config scripts
    reportRendered config scripts.length images

/-! ## Listing -/

/-- One command of a listing for users. -/
def tellCommand (s : Summary) : Job Unit := do
  Job.tell .info (if s.parent?.isSome then "Scoped" else "Command")
    (s.usage ++ " " ++ dim (← get).terminal s.description)

/-- The commands under the settings. -/
def listCommands (json : Bool) (config? : Option FilePath) : Job Unit := do
  let config ← settings config?
  let registry ← Job.ofExcept (Standard.registry config)
  if json then Job.print (jsonListing registry.summaries)
  else registry.summaries.forM tellCommand

/-! ## Starting a project -/

/-- A settings file for a directory (`init`). One that is there already is replaced by force only.
-/
def initialise (directory : FilePath) (output? : Option FilePath) (force : Bool) : Job Unit := do
  let p := directory.child settingsFileName
  if (← get).files.isPresent p && !force then throw (.config .alreadyThere)
  let config : Config := {}
  let config := { config with output := output?.getD config.output }
  Job.store directory "Failed to create project directory" (FileSystem.makeDirectories directory)
  Job.tellPath .status "Scanning" directory
  let scripts ← Job.ofExcept (collectScripts (← get).files [directory] config.extension)
  Job.store p "Failed to write config" (FileSystem.writeFile p (.text config.toYaml))
  Job.tell .success "Created"
    (settingsFileName ++ " (" ++ plural scripts.length "script" "scripts" ++ " found)")

/-- A task carried out; completions are not among them. -/
def Task.run : Task → Job Unit
  | .render paths config? output? => CommandLine.render paths config? output?
  | .commands json config? => listCommands json config?
  | .init directory output? force => initialise directory output? force
  | .completions _ => pure ()

end CanvasScript.CommandLine
