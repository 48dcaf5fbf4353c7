import CanvasScript.Data.KeyMap
import CanvasScript.Storage.Content
import CanvasScript.Storage.FilePath

/-!
# Files and directories

A file system is a finite map from places to files and directories, together with the directory
that relative paths are taken from. It has no links, and everything may be read and written.

* `Place`: the names on the way from the root.
* `FileSystem.resolve`: the place that a path leads to; every name but the last has to be that of
  a directory.
* `FileSystem.readText`, `readContent`, `isFile`, `isDirectory`: looking.
* `Storing`: operations that change the file system even when they fail half-way;
  `makeDirectories`, `writeFile`.
* `FileSystem.filesBelow`: the files in a directory at any depth, in the order of their names.
* `FileSystem.changes`: what one file system has that another one has not.
-/

namespace CanvasScript.Storage

/-- The names on the way from the root. -/
abbrev Place := List String

/-- A file or a directory. -/
inductive Entry where
  | file (c : Content)
  | directory
deriving Inhabited

/-- Why an operation fails. -/
inductive SystemFault where
  | notFound
  | alreadyExists
  | notDirectory
  | isDirectory
  | nameTooLong
  /-- The path has the character in it that ends paths. -/
  | endWithin
  | invalidText
deriving DecidableEq, Repr

/-- The reason as it is given in messages. -/
def SystemFault.reason : SystemFault → String
  | notFound => "No such file or directory (os error 2)"
  | alreadyExists => "File exists (os error 17)"
  | notDirectory => "Not a directory (os error 20)"
  | isDirectory => "Is a directory (os error 21)"
  | nameTooLong => "File name too long (os error 36)"
  | endWithin => "file name contained an unexpected NUL byte"
  | invalidText => "stream did not contain valid UTF-8"

/-- Files and directories by place, and the working directory. -/
structure FileSystem where
  entries : KeyMap Place Entry
  working : Place

namespace FileSystem

/-- What is at a place. The root is a directory. -/
def entry? (fs : FileSystem) (p : Place) : Option Entry :=
  if p.isEmpty then some .directory else fs.entries.find? p

/-- The file system with a new entry at a place. -/
def put (fs : FileSystem) (p : Place) (e : Entry) : FileSystem :=
  { fs with entries := fs.entries.insert p e }

/-- The file system with a directory at a place and at all places on the way to it. -/
def putDirectories (fs : FileSystem) (p : Place) : FileSystem :=
  (List.range p.length).foldl
    (fun fs n =>
      let q := p.take (n + 1)
      if (fs.entry? q).isSome then fs else fs.put q .directory) fs

/-- The file system that holds only its working directory. -/
def ofWorking (working : Place) : FileSystem :=
  ({ entries := KeyMap.empty, working } : FileSystem).putDirectories working

/-! ## Where a path leads -/

/-- The octets that a path may have, and one more for the character that ends it. -/
def pathLimit : Nat := 4096

/-- The octets that a name on the way may have. -/
def nameLimit : Nat := 255

/-- A path may be followed, whatever there is on the way. -/
def requireFit (p : FilePath) : Except SystemFault Unit :=
  if p.text.toList.contains '\x00' then .error .endWithin
  else if p.text.isEmpty then .error .notFound
  else if pathLimit ≤ p.text.utf8ByteSize then .error .nameTooLong
  else .ok ()

/-- A name may be looked up. -/
def requireName (name : String) : Except SystemFault Unit :=
  if nameLimit < name.utf8ByteSize then .error .nameTooLong else .ok ()

/-- There is a directory at a place, or the reason why there is none. -/
def requireDirectory (fs : FileSystem) (p : Place) : Except SystemFault Unit :=
  match fs.entry? p with
  | some .directory => .ok ()
  | some (.file _) => .error .notDirectory
  | none => .error .notFound

/-- The place reached from a directory by some names. -/
def walk (fs : FileSystem) (p : Place) : List String → Except SystemFault Place
  | [] => .ok p
  | name :: names => do
    fs.requireDirectory p
    requireName name
    if name = "." then fs.walk p names
    else if name = ".." then fs.walk p.dropLast names
    else fs.walk (p ++ [name]) names

/-- The place that the names of a path start from. -/
def origin (fs : FileSystem) (p : FilePath) : Place :=
  if p.isAbsolute then [] else fs.working

/-- The place that a path leads to; a path that ends with a slash leads to a directory. There
need not be anything at the place. -/
def resolve (fs : FileSystem) (p : FilePath) : Except SystemFault Place := do
  requireFit p
  let place ← fs.walk (fs.origin p) p.segments
  if p.endsOpen then
    fs.requireDirectory place
  .ok place

/-- What a path leads to. -/
def lookup (fs : FileSystem) (p : FilePath) : Except SystemFault Entry := do
  match fs.entry? (← fs.resolve p) with
  | some e => .ok e
  | none => .error .notFound

/-- The path leads to a file. -/
def isFile (fs : FileSystem) (p : FilePath) : Bool :=
  match fs.lookup p with
  | .ok (.file _) => true
  | _ => false

/-- The path leads to a directory. -/
def isDirectory (fs : FileSystem) (p : FilePath) : Bool :=
  match fs.lookup p with
  | .ok .directory => true
  | _ => false

/-- The path leads to something. -/
def isPresent (fs : FileSystem) (p : FilePath) : Bool :=
  fs.isFile p || fs.isDirectory p

/-- What the file at the end of a path holds. -/
def readContent (fs : FileSystem) (p : FilePath) : Except SystemFault Content := do
  match ← fs.lookup p with
  | .file c => .ok c
  | .directory => .error .isDirectory

/-- The text that the file at the end of a path holds. -/
def readText (fs : FileSystem) (p : FilePath) : Except SystemFault String := do
  match ← fs.readContent p with
  | .text s => .ok s
  | _ => .error .invalidText

/-! ## Changes -/

/-- Operations that may change the file system, also when they fail. -/
abbrev Storing := ExceptT SystemFault (StateM FileSystem)

/-- The directory that holds the last name of a path, and that name, unless there is none or it is
a dot or two. -/
def holder (fs : FileSystem) (p : FilePath) : Except SystemFault (Option (Place × String)) := do
  requireFit p
  match p.segments.getLast? with
  | none => .ok none
  | some name =>
    let place ← fs.walk (fs.origin p) p.segments.dropLast
    fs.requireDirectory place
    requireName name
    if name = "." ∨ name = ".." then .ok none else .ok (some (place, name))

/-- A new directory at the end of a path. -/
def makeDirectory (p : FilePath) : Storing Unit := do
  let fs ← get
  match ← fs.holder p with
  | none => throw .alreadyExists
  | some (place, name) =>
    match fs.entry? (place ++ [name]) with
    | some _ => throw .alreadyExists
    | none => set (fs.put (place ++ [name]) .directory)

/-- Directories at the end of a path and of those before it that are missing, `paths` being the
path, its parent and so on. -/
def makeMissing : List FilePath → Storing Unit
  | [] => pure ()
  | p :: parents => do
    if p.text.isEmpty then pure ()
    else
      match (makeDirectory p).run (← get) with
      | (.ok (), fs) => set fs
      | (.error .notFound, _) =>
        makeMissing parents
        unlessDirectory p
      | (.error _, _) => unlessDirectory p
where
  /-- A new directory at the end of a path that does not lead to one yet. -/
  unlessDirectory (p : FilePath) : Storing Unit := do
    if (← get).isDirectory p then pure () else makeDirectory p

/-- A directory at the end of a path, with all that are missing on the way. -/
def makeDirectories (p : FilePath) : Storing Unit :=
  makeMissing p.ancestors

/-- A file at the end of a path, in the place of any file there. -/
def writeFile (p : FilePath) (c : Content) : Storing Unit := do
  let fs ← get
  match ← fs.holder p with
  | none => throw .isDirectory
  | some (place, name) =>
    if p.endsOpen then throw .isDirectory
    else
      match fs.entry? (place ++ [name]) with
      | some .directory => throw .isDirectory
      | _ => set (fs.put (place ++ [name]) (.file c))

/-! ## Walking directories -/

/-- The names that lead to a place from a directory above it. -/
def below? (directory place : Place) : Option (List String) :=
  if directory.isPrefixOf place && directory.length < place.length then
    some (place.drop directory.length)
  else none

/-- The files in a directory at any depth, by the names that lead to them, in the order of these
names. -/
def filesBelow (fs : FileSystem) (directory : Place) : List (List String) :=
  fs.entries.toList.filterMap fun e =>
    match e.2 with
    | .file _ => below? directory e.1
    | .directory => none

/-! ## Comparing -/

/-- An entry is not what it was. -/
def isNew (old? : Option Entry) (new : Entry) : Bool :=
  match old?, new with
  | some .directory, .directory => false
  | some (.file c), .file d => !c.same d
  | _, _ => true

/-- The entries that `before` has not, in the order of their places. -/
def changes (before after : FileSystem) : List (Place × Entry) :=
  after.entries.toList.filter fun e => isNew (before.entry? e.1) e.2

end FileSystem

end CanvasScript.Storage
