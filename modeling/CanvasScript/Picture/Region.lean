import CanvasScript.Number.Single

/-!
# Rectangles of pixels

* `Region`: the pixels with `left ≤ x < right` and `top ≤ y < bottom`.
* `Region.clipped?`: the pixels of an image that a box touches.
* `Region.pixels`: the pixels, row by row.
* `centre`: the point at which a pixel is sampled.
-/

namespace CanvasScript.Picture

open Number

/-- Pixels from `left` and `top` on, up to but without `right` and `bottom` (`Bounds`). -/
structure Region where
  left : Nat
  top : Nat
  right : Nat
  bottom : Nat
deriving DecidableEq, Repr

namespace Region

/-- A coordinate as a whole number between zero and `limit`. -/
def bounded (x : Float32) (limit : Nat) : Nat :=
  Single.toNat (Single.clamp x 0 (Float32.ofNat limit))

/-- The pixels of an image of the given size that the box touches, if there are any. -/
def clipped? (left top right bottom : Float32) (width height : Nat) : Option Region :=
  let r : Region :=
    { left := bounded left.floor width
      top := bounded top.floor height
      right := bounded right.ceil width
      bottom := bounded bottom.ceil height }
  if r.left < r.right ∧ r.top < r.bottom then some r else none

/-- The pixels of one row. -/
def row (r : Region) (y : Nat) : List (Nat × Nat) :=
  (List.range' r.left (r.right - r.left)).map fun x => (x, y)

/-- The pixels, row by row. -/
def pixels (r : Region) : List (Nat × Nat) :=
  (List.range' r.top (r.bottom - r.top)).flatMap r.row

end Region

/-- The centre of a pixel. -/
def centre (x y : Nat) : Float32 × Float32 :=
  (Float32.ofNat x + 0.5, Float32.ofNat y + 0.5)

end CanvasScript.Picture
