import CanvasScript.Canvas.Choice
import CanvasScript.Picture.Blend
import CanvasScript.Picture.Coverage

/-!
# Drawing text

* `layoutLine`: the characters of a line with their distances from its start, and its length.
* `drawGlyph`: a glyph blended into an image by its coverage; one that lies beside the image is
  passed over.
* `drawText`: lines below each other, each aligned to the anchor on its own.
-/

namespace CanvasScript.Picture

open Number Canvas

/-- The characters of a line, each with its distance from the start, and the length of the line.
`cursor` is the length so far, after `previous`. -/
def layoutFrom (t : Typeface) (size : Float32) (cursor : Float32) (previous : Option Char) :
    List Char → List (Char × Float32) × Float32
  | [] => ([], cursor)
  | c :: cs =>
    let x := match previous with
      | some p => cursor + t.kerning size p c
      | none => cursor
    let (placed, length) := layoutFrom t size (x + t.advance size c) (some c) cs
    ((c, x) :: placed, length)

/-- The characters of a line, each with its distance from the start, and the length of the line. -/
def layoutLine (t : Typeface) (size : Float32) (line : List Char) :
    List (Char × Float32) × Float32 :=
  layoutFrom t size 0 none line

/-- The lines of a text. -/
def lines : List Char → List (List Char)
  | [] => [[]]
  | c :: cs =>
    match lines cs with
    | [] => [[c]]
    | l :: ls => if c = '\n' then [] :: l :: ls else (c :: l) :: ls

/-- The box lies beside an image of the given size. -/
def PixelBox.isBeside (b : PixelBox) (width height : Nat) : Bool :=
  b.high.x < 0 || b.high.y < 0 || Float32.ofNat width ≤ b.low.x || Float32.ofNat height ≤ b.low.y

/-- A colour laid over a pixel that may lie beside the image. -/
def blendAt (image : Image) (x y : Int) (colour : Colour) (coverage : Float32) : Image :=
  if 0 ≤ x ∧ 0 ≤ y ∧ x < image.width ∧ y < image.height then
    image.modify x.toNat y.toNat (blend · colour coverage)
  else image

/-- A placed glyph in a colour. -/
def drawGlyph (image : Image) (p : Placement) (colour : Colour) : Image :=
  match p.box? with
  | none => image
  | some box =>
    if box.isBeside image.width image.height then image
    else
      let left := Single.toInt box.low.x
      let top := Single.toInt box.low.y
      (p.grid box).visit
        (fun image column row coverage =>
          blendAt image (left + column) (top + row) colour coverage) image

/-- One line of text, its baseline at the height `y` and its anchor at `x`. -/
def drawLine (t : Typeface) (size : Float32) (colour : Colour) (align : TextAlign)
    (x y : Float32) (image : Image) (line : List Char) : Image :=
  let (placed, length) := layoutLine t size line
  let origin := x - length * align.offsetFactor
  placed.foldl
    (fun image (c, dx) => drawGlyph image ⟨t.glyph c, t.scale size, ⟨origin + dx, y⟩⟩ colour) image

/-- Lines of text, the baseline of the first at the height `y`. -/
def drawText (t : Typeface) (size : Float32) (colour : Colour) (align : TextAlign) (text : String)
    (x y : Int) (image : Image) : Image :=
  ((lines text.toList).zipIdx).foldl
    (fun image (line, index) =>
      drawLine t size colour align (Float32.ofInt x)
        (Float32.ofInt y + Float32.ofNat index * t.lineHeight size) image line) image

end CanvasScript.Picture
