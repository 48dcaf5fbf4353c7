import CanvasScript.Number.Binary

/-!
# The shortest decimal of a floating-point number

A finite number is written with the fewest significant digits that still read back as it; among
decimals of that length the one nearest to the number is taken, and of two equally near ones the
larger.

* `Range`: the reals that round to a number, scaled to whole numbers.
* `Range.onGrid?`: the decimal chosen among the multiples of `10 ^ k`, if one of them is in range.
* `shortest`: the first choice met from coarse grids to fine ones.
* `Decimal.positional`: digits with a point, never an exponent.
* `Format.text`: the text of any number of a format.
-/

namespace CanvasScript.Number

/-- The decimal `digits · 10 ^ exponent`. -/
structure Decimal where
  digits : Nat
  exponent : Int

/-- The reals between `low · 2 ^ unit` and `high · 2 ^ unit`, around `centre · 2 ^ unit`; the two
ends belong to it if `closed`. -/
structure Range where
  low : Nat
  centre : Nat
  high : Nat
  unit : Int
  closed : Bool

/-- The reals that round to `significand · 2 ^ exponent`: up to half a place to either side, and
only a quarter below a power of two. The ends round to it if its significand is even. -/
def Format.range (f : Format) (significand : Nat) (exponent : Int) : Range where
  low := 4 * significand -
    (if significand = Nat.pow 2 f.fraction ∧ f.least < exponent then 1 else 2)
  centre := 4 * significand
  high := 4 * significand + 2
  unit := exponent - 2
  closed := significand % 2 == 0

namespace Range

variable (r : Range)

/-- The multiplier that brings `r` to the common denominator with multiples of `10 ^ k`. -/
def up (k : Int) : Nat :=
  Nat.pow 2 r.unit.toNat * Nat.pow 10 (-k).toNat

/-- The size of one step of the grid, at the same denominator. -/
def step (k : Int) : Nat :=
  Nat.pow 2 (-r.unit).toNat * Nat.pow 10 k.toNat

/-- The multiple `c · 10 ^ k` is in range. -/
def holds (k : Int) (c : Nat) : Bool :=
  if r.closed then
    r.low * r.up k ≤ c * r.step k && c * r.step k ≤ r.high * r.up k
  else
    r.low * r.up k < c * r.step k && c * r.step k < r.high * r.up k

/-- The chosen multiple of `10 ^ k`: of the two around the centre, one that is in range, the
nearer if both are, the upper if they are equally near. -/
def onGrid? (k : Int) : Option Nat :=
  let c := r.centre * r.up k / r.step k
  let below := r.holds k c
  let above := r.holds k (c + 1)
  if below && above then
    if r.step k ≤ 2 * (r.centre * r.up k % r.step k) then some (c + 1) else some c
  else if below then some c
  else if above then some (c + 1)
  else none

/-- The first choice on the grids `10 ^ k`, `10 ^ (k - 1)`, …, trying `n` of them before taking
the multiple below the centre. -/
def search : Nat → Int → Decimal
  | 0, k => ⟨r.centre * r.up k / r.step k, k⟩
  | n + 1, k =>
    match r.onGrid? k with
    | some c => ⟨c, k⟩
    | none => search n (k - 1)

end Range

/-- The shortest decimal of `significand · 2 ^ exponent`. -/
def Format.shortest (f : Format) (significand : Nat) (exponent : Int) : Decimal :=
  let magnitude : Int := (significand.log2 : Int) + exponent
  (f.range significand exponent).search 24 (magnitude * 30103 / 100000 + 2)

/-- The digits of a decimal with a point, or with zeros behind them. -/
def Decimal.positional (d : Decimal) : String :=
  let digits := Nat.toDigits 10 d.digits
  let places := (-d.exponent).toNat
  String.ofList <|
    if 0 ≤ d.exponent then digits ++ List.replicate d.exponent.toNat '0'
    else if places < digits.length then
      digits.take (digits.length - places) ++ '.' :: digits.drop (digits.length - places)
    else ['0', '.'] ++ List.replicate (places - digits.length) '0' ++ digits

/-- The text of the number with the given bits: `NaN`, `inf`, or its shortest decimal, after a
minus sign if the sign bit is set. -/
def Format.text (f : Format) (bits : Nat) : String :=
  match f.decode bits with
  | .nan => "NaN"
  | .infinite negative => if negative then "-inf" else "inf"
  | .finite negative significand exponent =>
    (if negative then "-" else "") ++
      (if significand = 0 then "0" else (f.shortest significand exponent).positional)

/-- The text of a double. -/
def doubleText (x : Float) : String :=
  double.text x.toBits.toNat

/-- The text of a single. -/
def singleText (x : Float32) : String :=
  single.text x.toBits.toNat

end CanvasScript.Number
