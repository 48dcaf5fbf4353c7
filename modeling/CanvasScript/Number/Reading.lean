import CanvasScript.Number.Shortest

/-!
# Reading decimals

* `readDecimal?`: an optional sign, digits with at most one point among them and at least one
  digit, and an optional exponent with at least one digit. Nothing else may stand in the text.
* `Decimal.bits`: the double nearest to a decimal.
* `readFinite?`: the double that a text stands for, if the text is a decimal and is not beyond the
  largest finite double.
* `wholePart`: a finite double cut off at the point.
-/

namespace CanvasScript.Number

/-- The value of a run of decimal digits. -/
def digitsValue (cs : List Char) : Nat :=
  cs.foldl (fun n c => 10 * n + (c.toNat - '0'.toNat)) 0

/-- A leading sign, and the rest. -/
def readSign : List Char → Bool × List Char
  | '-' :: cs => (true, cs)
  | '+' :: cs => (false, cs)
  | cs => (false, cs)

/-- An exponent that takes up the whole text; no text is the exponent zero. -/
def readExponent? : List Char → Option Int
  | [] => some 0
  | c :: cs =>
    if c = 'e' ∨ c = 'E' then
      let (negative, digits) := readSign cs
      if digits.isEmpty || !digits.all Char.isDigit then none
      else
        let n : Int := digitsValue digits
        some (if negative then -n else n)
    else none

/-- The sign and the size of a decimal. -/
def readDecimal? (cs : List Char) : Option (Bool × Decimal) := do
  let (negative, cs) := readSign cs
  let whole := cs.takeWhile Char.isDigit
  let cs := cs.dropWhile Char.isDigit
  let (places, cs) := match cs with
    | '.' :: cs => (cs.takeWhile Char.isDigit, cs.dropWhile Char.isDigit)
    | cs => ([], cs)
  if whole.isEmpty && places.isEmpty then none
  else
    let exponent ← readExponent? cs
    some (negative, ⟨digitsValue (whole ++ places), exponent - places.length⟩)

/-- The bits of the double nearest to a decimal, `none` if that is beyond the finite ones. A size
that no double reaches is settled without building the power of ten. -/
def Decimal.bits? (d : Decimal) : Option Nat :=
  let places : Int := (Nat.toDigits 10 d.digits).length + d.exponent
  if d.digits = 0 then some 0
  else if 400 < places then none
  else if places < -400 then some 0
  else double.nearest (d.digits * Nat.pow 10 d.exponent.toNat) (Nat.pow 10 (-d.exponent).toNat)

/-- The finite double nearest to the decimal that a text stands for. -/
def readFinite? (s : String) : Option Float := do
  let (negative, d) ← readDecimal? s.toList
  let bits ← d.bits?
  some (Float.ofBits (UInt64.ofNat (double.signBit negative + bits)))

/-- A double cut off at the point; zero for what is not finite. -/
def wholePart (x : Float) : Int :=
  match double.decode x.toBits.toNat with
  | .finite negative significand exponent =>
    let n : Nat := significand * Nat.pow 2 exponent.toNat / Nat.pow 2 (-exponent).toNat
    if negative then -n else n
  | _ => 0

end CanvasScript.Number
