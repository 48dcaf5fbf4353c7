import CanvasScript.Number.Single

/-!
# Distances and angles

Shapes are given by the signed distance of a point from their edge, negative inside.

* `circle`, `roundedBox?`: the distance from the edge of a circle and of a box with round corners.
* `angleOf`: the direction of a vector in degrees, clockwise from the right.
* `inSweep`: a direction lies on the way from one angle to another.
* `body`: the distances at which a shape is painted: all of the inside, or a band along the edge.
-/

namespace CanvasScript.Picture

open Number

/-- The distance of `(px, py)` from the circle around `(cx, cy)`. -/
def circle (px py cx cy radius : Float32) : Float32 :=
  Single.hypot (px - cx) (py - cy) - radius

/-- The distance of `(px, py)` from a box with round corners (`rounded_rect`). The radius of the
corners is kept between zero and half the shorter side; there is no distance if that leaves nothing.
-/
def roundedBox? (px py left top width height radius : Float32) : Option Float32 :=
  let halfWidth := width / 2
  let halfHeight := height / 2
  let limit := Single.lesser halfWidth halfHeight
  if 0 ≤ limit then
    let r := Single.clamp radius 0 limit
    let qx := (px - (left + halfWidth)).abs - (halfWidth - r)
    let qy := (py - (top + halfHeight)).abs - (halfHeight - r)
    let outside := Single.hypot (Single.greater qx 0) (Single.greater qy 0)
    let inside := Single.lesser (Single.greater qx qy) 0
    some (outside + inside - r)
  else none

/-- The direction of a vector in degrees, clockwise from the right, where `y` grows downwards. -/
def angleOf (dx dy : Float32) : Float32 :=
  Single.wrap (Single.toDegrees (Single.angle dy dx)) 360

/-- The direction lies on the clockwise way from `start` to `stop`; a full turn holds all. -/
def inSweep (angle start stop : Float32) : Bool :=
  if 360 ≤ (stop - start).abs then true
  else Single.wrap (angle - start) 360 ≤ Single.wrap (stop - start) 360

/-- A distance at which a shape is painted: inside if it is filled, else within a band of width
`stroke` along its edge. -/
def body (filled : Bool) (stroke distance : Float32) : Bool :=
  if filled then distance ≤ 0 else distance.abs ≤ stroke / 2

end CanvasScript.Picture
