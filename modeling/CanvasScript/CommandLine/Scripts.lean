import CanvasScript.Fault
import CanvasScript.Storage.FileSystem

/-!
# Finding scripts

* `scriptsIn`: the files below a directory that have an extension, in the order of their names.
  Every directory on the way is opened by its path; one that cannot be opened is passed over.
* `collectScripts`: the scripts that some paths lead to. Files are taken as they are given, and
  directories are searched.
-/

namespace CanvasScript.CommandLine

open Storage

/-- The path that leads on from a directory by some names. -/
def descend (directory : FilePath) (names : List String) : FilePath :=
  names.foldl FilePath.child directory

/-- The last of some names has an extension. -/
def hasExtension (extension : String) (names : List String) : Bool :=
  names.getLast?.bind FilePath.extensionOf? == some extension

/-- Every directory on the way, the first one included, can be opened by the path that is followed
to it. A path that has become too long leads to nothing. -/
def isReached (fs : FileSystem) (directory : FilePath) (names : List String) : Bool :=
  (List.range names.length).all fun n => fs.isDirectory (descend directory (names.take n))

/-- The files below a directory that have an extension, in the order of their names. -/
def scriptsIn (fs : FileSystem) (extension : String) (directory : FilePath) : List FilePath :=
  match fs.resolve directory with
  | .ok place =>
    ((fs.filesBelow place).filter fun names =>
      hasExtension extension names && isReached fs directory names).map (descend directory)
  | .error _ => []

/-- The scripts that a path leads to. -/
def scriptsAt (fs : FileSystem) (extension : String) (p : FilePath) :
    Except Fault (List FilePath) :=
  if fs.isFile p then .ok [p]
  else if fs.isDirectory p then .ok (scriptsIn fs extension p)
  else .error (.file p.text "No such file or directory")

/-- The scripts that some paths lead to, in order. -/
def collectScripts (fs : FileSystem) (paths : List FilePath) (extension : String) :
    Except Fault (List FilePath) :=
  return (← paths.mapM (scriptsAt fs extension)).flatten

end CanvasScript.CommandLine
