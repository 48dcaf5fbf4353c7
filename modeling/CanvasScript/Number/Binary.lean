/-!
# Binary floating-point formats

A number of a format is given by its bits; this module says which real number the bits stand for,
and which bits stand for the number nearest to a given fraction.

* `Format`: the widths of the two fields; `single` and `double` are the two formats in use.
* `Datum`: what bits stand for: no number, an infinity, or `± significand · 2 ^ exponent`.
* `Format.decode`: the datum of some bits.
* `Format.nearest`: the bits nearest to a fraction, a tie going to the even significand;
  `none` beyond the largest finite number.
-/

namespace CanvasScript.Number

/-- The widths of the fraction field and of the exponent field, in bits. -/
structure Format where
  fraction : Nat
  exponent : Nat

/-- Four bytes: `Float32`. -/
def single : Format := ⟨23, 8⟩

/-- Eight bytes: `Float`. -/
def double : Format := ⟨52, 11⟩

/-- What the bits of a number stand for. -/
inductive Datum where
  | nan
  | infinite (negative : Bool)
  /-- The number `significand · 2 ^ exponent`, negated if `negative`. -/
  | finite (negative : Bool) (significand : Nat) (exponent : Int)

namespace Format

variable (f : Format)

/-- The exponent of the smallest numbers, as a power of two of their last place. -/
def least : Int :=
  2 - ((Nat.pow 2 (f.exponent - 1) + f.fraction : Nat) : Int)

/-- The exponent field of infinities and of what is no number. -/
def top : Nat :=
  Nat.pow 2 f.exponent - 1

/-- What `bits` stand for. -/
def decode (bits : Nat) : Datum :=
  let negative := bits / Nat.pow 2 (f.fraction + f.exponent) % 2 == 1
  let field := bits / Nat.pow 2 f.fraction % Nat.pow 2 f.exponent
  let part := bits % Nat.pow 2 f.fraction
  if field = f.top then
    if part = 0 then .infinite negative else .nan
  else if field = 0 then .finite negative part f.least
  else .finite negative (Nat.pow 2 f.fraction + part) (f.least + field - 1)

/-- `a / b` to the nearest whole number, a tie to the even one. -/
def roundDiv (a b : Nat) : Nat :=
  let q := a / b
  let r := a % b
  if 2 * r < b then q
  else if b < 2 * r then q + 1
  else if q % 2 = 0 then q else q + 1

/-- `a / (b · 2 ^ q)` to the nearest whole number, a tie to the even one. -/
def roundScaled (a b : Nat) (q : Int) : Nat :=
  roundDiv (a * Nat.pow 2 (-q).toNat) (b * Nat.pow 2 q.toNat)

/-- The exponent of the last place of a significand of full width for `a / b`, but never below
`least`. -/
def lastPlace (a b : Nat) : Int :=
  let q : Int := (a.log2 : Int) - b.log2 - f.fraction
  let q := if a * Nat.pow 2 (-q).toNat < Nat.pow 2 f.fraction * (b * Nat.pow 2 q.toNat) then q - 1
    else q
  max q f.least

/-- The bits of the positive number nearest to `a / b`. -/
def nearest (a b : Nat) : Option Nat :=
  if a = 0 then some 0
  else
    let q := f.lastPlace a b
    let bits := (q - f.least).toNat * Nat.pow 2 f.fraction + roundScaled a b q
    if bits < f.top * Nat.pow 2 f.fraction then some bits else none

/-- The bits of an infinity. -/
def infinityBits (negative : Bool) : Nat :=
  (if negative then Nat.pow 2 (f.fraction + f.exponent) else 0) + f.top * Nat.pow 2 f.fraction

/-- The sign bit, in place. -/
def signBit (negative : Bool) : Nat :=
  if negative then Nat.pow 2 (f.fraction + f.exponent) else 0

end Format

end CanvasScript.Number
