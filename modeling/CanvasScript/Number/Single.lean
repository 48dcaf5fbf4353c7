import CanvasScript.Number.Binary

/-!
# Arithmetic of singles

Every operation rounds to a single; this module adds those that the arithmetic operators do not
give.

* `greater`, `lesser`: of two numbers, ignoring one that is no number; `clamp` keeps it.
* `truncate`: cut off at the point.
* `hypot`: the length of a vector, rounded once from the double result.
* `angle`: the angle of a vector in radians, rounded from the double result.
* `modulo`: the remainder of a division cut off at the point, which is always exact.
* `wrap`: the remainder brought into `[0, m)`; a tiny negative one may round to `m` itself.
* `toNat`, `toInt`: whole numbers of 32 bits, cut off at the point and at the ends of the range.
-/

namespace CanvasScript.Number.Single

/-- The greater of two numbers. -/
def greater (x y : Float32) : Float32 :=
  if x.isNaN then y else if y.isNaN then x else if x < y then y else x

/-- The lesser of two numbers. -/
def lesser (x y : Float32) : Float32 :=
  if x.isNaN then y else if y.isNaN then x else if y < x then y else x

/-- A number moved to the nearer end of a range that it is outside of. -/
def clamp (x low high : Float32) : Float32 :=
  if x < low then low else if high < x then high else x

/-- A number cut off at the point. -/
def truncate (x : Float32) : Float32 :=
  if x < 0 then x.ceil else x.floor

/-- Positive infinity. -/
def infinity : Float32 := Float32.ofBits 0x7F800000

/-- The result of an operation without a result. -/
def undefined : Float32 := Float32.ofBits 0x7FC00000

/-- The length of the vector `(x, y)`, infinite if one of its coordinates is. -/
def hypot (x y : Float32) : Float32 :=
  if x.isInf || y.isInf then infinity
  else (x.toFloat * x.toFloat + y.toFloat * y.toFloat).sqrt.toFloat32

/-- The angle of the vector `(x, y)` from the first axis, in radians. -/
def angle (y x : Float32) : Float32 :=
  (Float.atan2 y.toFloat x.toFloat).toFloat32

/-- Degrees in a radian. -/
def degreesPerRadian : Float32 := Float32.ofBits 0x42652EE1

/-- An angle in degrees. -/
def toDegrees (x : Float32) : Float32 := x * degreesPerRadian

/-- The remainder of `x` by `m`, with the sign of `x`. -/
def modulo (x m : Float32) : Float32 :=
  if x.abs < m.abs then x
  else
    match single.decode x.toBits.toNat, single.decode m.toBits.toNat with
    | .finite negative a p, .finite _ b q =>
      if b = 0 then undefined
      else
        let e := min p q
        let r := a * Nat.pow 2 (p - e).toNat % (b * Nat.pow 2 (q - e).toNat)
        match single.nearest (r * Nat.pow 2 e.toNat) (Nat.pow 2 (-e).toNat) with
        | some bits => Float32.ofBits (UInt32.ofNat (single.signBit negative + bits))
        | none => undefined
    | _, _ => undefined

/-- The remainder of `x` by `m`, not negative. -/
def wrap (x m : Float32) : Float32 :=
  let r := modulo x m
  if r < 0 then r + m.abs else r

/-- The whole part, from zero to `2 ^ 32 - 1`. -/
def toNat (x : Float32) : Nat := x.toUInt32.toNat

/-- The whole part, from `-2 ^ 31` to `2 ^ 31 - 1`. -/
def toInt (x : Float32) : Int := x.toInt32.toInt

end CanvasScript.Number.Single
