import CanvasScript.CommandLine.Jobs
import CanvasScript.CommandLine.Usage
import Std.Time.DateTime.Timestamp

/-!
# The program

Files are read, the task is carried out on what was read, and what has changed is written. The
task sees the working directory at any depth and what its arguments name. A file elsewhere is read
when a task has failed for the want of it, and the task is begun again.

Docstrings name what the program calls by another name, in parentheses.
-/

namespace CanvasScript.Program

open Canvas CommandLine Storage

/-! ## Reading -/

/-- The file at a place, or the directory with all that is in it. What cannot be read is passed
over, and so are links to directories. -/
partial def readPlace (place : Place) (fs : FileSystem) : IO FileSystem := do
  let entries? ← ((·.readDir) =<< IO.FS.realPath (placePath place).text).toBaseIO
  match entries? with
  | .ok entries =>
    let mut fs := fs.putDirectories place
    for e in entries do
      let own? ← e.path.symlinkMetadata.toBaseIO
      let target? ← e.path.metadata.toBaseIO
      let isLink := match own? with
        | .ok info => info.type == .symlink
        | .error _ => true
      let isDirectory := match target? with
        | .ok info => info.type == .dir
        | .error _ => false
      if !(isLink && isDirectory) then
        fs ← readPlace (place ++ [e.fileName]) fs
    return fs
  | .error _ =>
    match ← (IO.FS.readBinFile (placePath place).text).toBaseIO with
    | .ok b => return (fs.putDirectories place.dropLast).put place (.file (.ofOctets b))
    | .error _ => return fs

/-- The place that a path names, whether or not there is anything. -/
def placeOf (working : Place) (p : FilePath) : Place :=
  p.segments.foldl
    (fun place name =>
      if name = "." then place else if name = ".." then place.dropLast else place ++ [name])
    (if p.isAbsolute then [] else working)

/-- The paths that a task is given. -/
def pathsOf : Task → List FilePath
  | .render paths config? _ => paths ++ config?.toList
  | .commands _ config? => config?.toList
  | .init directory _ _ => [directory]
  | .completions _ => []

/-- The working directory and what a task is given. -/
def readFiles (task : Task) : IO FileSystem := do
  let working := FilePath.segments ⟨(← IO.currentDir).toString⟩
  let places := (pathsOf task).map (placeOf working)
  let others := places.filter fun place => !working.isPrefixOf place
  others.foldlM (fun fs place => readPlace place fs)
    (← readPlace working (FileSystem.ofWorking working))

/-- The file that a fault is about. -/
def pathOf? : Fault → Option FilePath
  | .file path _ => some ⟨path⟩
  | .render (.fontUnreadable path _ _) => some ⟨path⟩
  | .render (.imageUnreadable path _) => some ⟨path⟩
  | _ => none

/-! ## Writing -/

/-- What has changed, written to its places. -/
def writeChanges (before after : FileSystem) : IO Unit :=
  (FileSystem.changes before after).forM fun (place, entry) => do
    let path := (placePath place).text
    match entry with
    | .directory => IO.FS.createDirAll path
    | .file c => c.octets?.forM fun b => IO.FS.writeBinFile path b

/-- A fault with the advice about it. -/
def report (fault : Fault) : String :=
  "Error: " ++ fault.message ++ "\n" ++
    match fault.help? with
    | some help => "  help: " ++ help ++ "\n"
    | none => ""

/-! ## Running -/

/-- Identifiers with the present time and random digits. -/
def makeIds : IO IdSupply := do
  let now ← Std.Time.Timestamp.now
  let seed := hash (← IO.getRandomBytes 8).toList
  return {
    stamp := fun _ => now.toMillisecondsSinceUnixEpoch.toInt.toNat
    digit := fun n i => Fin.ofNat 16 ((mixHash seed (hash (n, i))).toNat >>> 20) }

/-- A task carried out on some files. -/
partial def perform (task : Task) (files : FileSystem) (ids : IdSupply) (terminal : Bool) :
    IO UInt32 := do
  let (r, console) := task.run.run { files, ids, terminal }
  let found? ←
    match r with
    | .error fault =>
      match pathOf? fault with
      | some p =>
        let place := placeOf files.working p
        if (console.files.entry? place).isSome then pure none
        else
          let found ← readPlace place files
          pure (if (found.entry? place).isSome then some found else none)
      | none => pure none
    | .ok () => pure none
  match found? with
  | some found => perform task found ids terminal
  | none =>
    writeChanges files console.files
    IO.print console.output
    IO.eprint console.messages
    match r with
    | .ok () => return 0
    | .error fault =>
      IO.eprint (report fault)
      return 1

end CanvasScript.Program

open CanvasScript CommandLine in
/-- The task that the arguments describe, carried out. -/
def main (args : List String) : IO UInt32 := do
  match Request.ofArguments args with
  | .error fault =>
    if fault.isAnswered then
      IO.print fault.report
      return 0
    else
      IO.eprint fault.report
      return 2
  | .ok request =>
    let files ← Program.readFiles request.task
    Program.perform request.task files (← Program.makeIds) (← (← IO.getStderr).isTty)
