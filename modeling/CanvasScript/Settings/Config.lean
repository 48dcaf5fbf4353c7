import CanvasScript.Fault
import CanvasScript.Storage.FilePath

/-!
# Project settings

* `Config`: where rendered images go, which commands are switched off, and which files count as
  scripts.
* `Config.resolveOutput`: the path of an image under the output directory.
-/

namespace CanvasScript.Settings

open Storage

/-- The settings of a project. -/
structure Config where
  /-- Relative paths of rendered images are taken from here. -/
  output : FilePath := ⟨"."⟩
  /-- Names of commands that are switched off with all that is scoped under them. -/
  disabled : List String := []
  /-- The extension of script files. -/
  extension : String := "easel"
deriving DecidableEq, Inhabited

/-- A path taken from the output directory, unless it is absolute. -/
def Config.resolveOutput (c : Config) (p : String) : FilePath :=
  c.output.join ⟨p⟩

end CanvasScript.Settings
