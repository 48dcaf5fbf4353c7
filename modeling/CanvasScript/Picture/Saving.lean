import CanvasScript.Picture.Painter

/-!
# Saving pictures

* `Saving`: steps that change the file system, also when they fail.
* `saveImage`: an image written to a path, after the directories on the way to it.
* `saveCanvas`: a canvas painted and saved.
-/

namespace CanvasScript.Picture

open Storage

/-- A step that may change the file system and may fail. -/
abbrev Saving := ExceptT Fault (StateM FileSystem)

namespace Saving

/-- A step of the file system whose fault is reported as `report` says. -/
def ofStoring {α : Type} (report : SystemFault → Fault) (s : FileSystem.Storing α) : Saving α :=
  fun fs =>
    match s.run fs with
    | (.ok a, fs) => (.ok a, fs)
    | (.error e, fs) => (.error (report e), fs)

/-- The directory that a file is to be written to. -/
def makeParent (p : FilePath) : Saving Unit :=
  match p.parent? with
  | some parent =>
    if parent.text.isEmpty then pure ()
    else
      ofStoring
        (fun e => .file parent.text ("Failed to create output directory: " ++ e.reason))
        (FileSystem.makeDirectories parent)
  | none => pure ()

end Saving

/-- An image written to a path, in the place of any file there. -/
def saveImage (image : Image) (p : FilePath) : Saving Unit := do
  Saving.makeParent p
  Saving.ofStoring (fun e => .render (.imageUnwritable p.text e.reason))
    (FileSystem.writeFile p (.image image))

/-- The picture of a canvas written to a path. -/
def saveCanvas (c : Canvas) (p : FilePath) : Saving Unit := fun fs =>
  match renderImage fs c with
  | .ok image => saveImage image p fs
  | .error fault => (.error fault, fs)

end CanvasScript.Picture
