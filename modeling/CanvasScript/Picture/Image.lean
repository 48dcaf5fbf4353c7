import CanvasScript.Colour

/-!
# Images

* `Image`: a rectangle of pixels, row by row.
* `Image.blank`: all pixels transparent.
* `Image.get`, `Image.set`, `Image.modify`: one pixel. Beyond the edges there is nothing to see
  and nothing to change.
-/

namespace CanvasScript.Picture

/-- A rectangle of pixels, the rows one after the other. -/
structure Image where
  width : Nat
  height : Nat
  pixels : Array Colour
  complete : pixels.size = width * height

namespace Image

/-- The transparent image of a size. -/
def blank (width height : Nat) : Image :=
  ⟨width, height, Array.replicate (width * height) Colour.clear, by simp⟩

instance : Inhabited Image := ⟨blank 0 0⟩

/-- The image of a size whose pixels, row by row, are those of a list; missing ones are
transparent. -/
def ofList (width height : Nat) (pixels : List Colour) : Image :=
  let all := (pixels ++ List.replicate (width * height - pixels.length) Colour.clear).take
    (width * height)
  ⟨width, height, all.toArray, by simp [all]; omega⟩

/-- The pixel in column `x` of row `y`. -/
def get (i : Image) (x y : Nat) : Colour :=
  if x < i.width then i.pixels.getD (y * i.width + x) Colour.clear else Colour.clear

/-- The image with one pixel changed. -/
def set (i : Image) (x y : Nat) (c : Colour) : Image :=
  if x < i.width then
    { i with
      pixels := i.pixels.setIfInBounds (y * i.width + x) c
      complete := by simpa using i.complete }
  else i

/-- The image with one pixel replaced by what `f` makes of it. -/
def modify (i : Image) (x y : Nat) (f : Colour → Colour) : Image :=
  let c := f (i.get x y)
  i.set x y c

end Image

end CanvasScript.Picture
