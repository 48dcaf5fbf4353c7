import CanvasScript.Canvas.Identifier
import CanvasScript.Canvas.Style
import CanvasScript.Number.Shortest

/-!
# Layers

* `Shape`: what a layer paints, with its size and style.
* `Shape.complaint?`: what makes a shape unusable; sizes, strokes and font sizes have limits.
* `Layer`: a shape at a position, with an identifier and possibly an outline.
* `Layer.make`: a layer of a usable shape; a missing or empty identifier is generated.
-/

namespace CanvasScript.Canvas

/-- The largest width or height, in pixels. -/
def maxDimension : Nat := 16384

/-- The largest font size, in pixels. -/
def maxFontSize : Nat := 2048

/-- How a shape is painted. -/
structure Paint where
  colour : Colour := Colour.black
  filled : Bool := true
  /-- The width of the line when the shape is not filled. -/
  stroke : Float32 := 1

/-- The size of a box with round corners. -/
structure BoxSize where
  width : Nat := 0
  height : Nat := 0
  /-- The radius of the corners. -/
  radius : Nat := 0

/-- What a layer paints. -/
inductive Shape where
  /-- A part of a circle around the position, between two angles in degrees. -/
  | arc (radius : Nat) (paint : Paint) (start stop : Float32)
  /-- A circle whose box begins at the position. -/
  | circle (radius : Nat) (paint : Paint)
  /-- A box with round corners around the position. -/
  | ellipse (size : BoxSize) (paint : Paint)
  /-- An image in a box with round corners around the position. -/
  | ellipseImage (size : BoxSize) (source : String)
  /-- Lines of text, the baseline of the first beginning at the position. -/
  | text (font : String) (size : Float32) (colour : Colour) (text : String) (align : TextAlign)

namespace Shape

/-- What is expected instead of something, and that thing. -/
abbrev Complaint := String × String

/-- A number has to be finite. -/
def finite? (what : String) (x : Float32) : Option Complaint :=
  if x.isFinite then none else some (what, Number.singleText x)

/-- A size has a limit. -/
def extent? (what : String) (n : Nat) : Option Complaint :=
  if n ≤ maxDimension then none else some (s!"{what} at most {maxDimension}", toString n)

/-- A stroke is finite, not negative, and has a limit. -/
def stroke? (x : Float32) : Option Complaint :=
  if x.isFinite && 0 ≤ x && x ≤ Float32.ofNat maxDimension then none
  else some (s!"Stroke between 0 and {maxDimension}", Number.singleText x)

/-- The sizes of a box have limits. -/
def box? (size : BoxSize) : Option Complaint :=
  ((extent? "Width" size.width).or (extent? "Height" size.height)).or
    (extent? "Radius" size.radius)

/-- The first thing wrong with a shape. -/
def complaint? : Shape → Option Complaint
  | arc radius paint start stop =>
    (((finite? "start angle" start).or (finite? "end angle" stop)).or
      (extent? "Radius" radius)).or (stroke? paint.stroke)
  | circle radius paint => (extent? "Radius" radius).or (stroke? paint.stroke)
  | ellipse size paint => (box? size).or (stroke? paint.stroke)
  | ellipseImage size source =>
    (box? size).or (if Text.allBlank source then some ("image URL", "") else none)
  | text _ size _ _ _ =>
    if size.isFinite && 0 < size && size ≤ Float32.ofNat maxFontSize then none
    else some (s!"Font Size above 0 and at most {maxFontSize}", Number.singleText size)

/-- The shape can be painted. -/
def check (s : Shape) : Except Fault Unit :=
  match s.complaint? with
  | some (expected, received) => .error (.argument "layer" expected received)
  | none => .ok ()

end Shape

/-- A shape at a position. -/
structure Layer where
  id : String
  x : Int
  y : Int
  shape : Shape
  outline? : Option Outline

/-- The identifier given, or a generated one if there is none or it is empty. -/
def Layer.identify (id? : Option String) (ids : IdSupply) : String × IdSupply :=
  match id? with
  | some id => if id.isEmpty then ids.next layerIdLength else (id, ids)
  | none => ids.next layerIdLength

/-- A layer of a usable shape (`Layer.new`). -/
def Layer.make (id? : Option String) (x y : Int) (shape : Shape) (outline? : Option Outline)
    (ids : IdSupply) : Except Fault (Layer × IdSupply) := do
  shape.check
  let (id, ids) := identify id? ids
  .ok (⟨id, x, y, shape, outline?⟩, ids)

end CanvasScript.Canvas
