import CanvasScript.Canvas.Choice
import CanvasScript.Colour
import CanvasScript.Storage.FilePath
import CanvasScript.Text.Blank

/-!
# Outlines and fonts

* `Outline`: a stroke along the edge of a shape, kept under a name for layers to refer to.
* `Font`: a font file, kept under the name of its family.
* `Outline.make`, `Font.make`: the only ways to get one, with the faults of unusable ones.
-/

namespace CanvasScript.Canvas

open Storage

/-- A stroke along the edge of a shape. -/
structure Outline where
  id : String
  kind : OutlineKind := .center
  colour : Colour := Colour.white
  /-- Opacity in percent. -/
  alpha : Nat := 100
  stroke : Nat := 1
deriving DecidableEq, Inhabited

namespace Outline

/-- An outline that has a name and an opacity of at most 100 percent (`Outline.new`). -/
def make (o : Outline) : Except Fault Outline :=
  if o.id.isEmpty then .error (.argument "outline" "non-empty ID" "")
  else if 100 < o.alpha then
    .error (.argument "outline" "alpha between 0 and 100" (toString o.alpha))
  else .ok o

/-- The colour that the outline is painted in. -/
def paint (o : Outline) : Colour :=
  o.colour.withAlphaPercent (UInt8.ofNat o.alpha)

end Outline

/-- A font family and the file that holds it. The file is read when the canvas is rendered. -/
structure Font where
  family : String
  path : FilePath
  weight : FontWeight := .regular
deriving DecidableEq, Inhabited

namespace Font

/-- A font whose family is not blank and whose path is not empty (`Font.new`). -/
def make (f : Font) : Except Fault Font :=
  if Text.allBlank f.family then .error (.argument "font" "non-empty family" "")
  else if f.path.text.isEmpty then .error (.argument "font" "font file path" "")
  else .ok f

end Font

end CanvasScript.Canvas
