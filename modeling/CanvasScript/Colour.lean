import CanvasScript.Fault
import CanvasScript.Text.Slice

/-!
# Colours

* `Colour`: red, green, blue and opacity, a byte each.
* `Colour.isHexOctet`, `Colour.readDigit`, `Colour.readByte`: hexadecimal digits, one by one and
  together.
* `Colour.parse`: opaque colours from `#RGB` or `#RRGGBB`.
* `Colour.text`: `#RRGGBB`, followed by the opacity unless it is full.
* `Colour.withAlphaPercent`: the opacity scaled by a percentage, rounded to the nearest byte.
-/

namespace CanvasScript

/-- A colour with straight opacity. -/
structure Colour where
  red : UInt8
  green : UInt8
  blue : UInt8
  alpha : UInt8
deriving DecidableEq, Inhabited, Repr

namespace Colour

/-- An opaque colour. -/
def rgb (red green blue : UInt8) : Colour := ⟨red, green, blue, 255⟩

/-- Opaque black. -/
def black : Colour := rgb 0 0 0

/-- Opaque white. -/
def white : Colour := rgb 255 255 255

/-- Transparent black. -/
def clear : Colour := ⟨0, 0, 0, 0⟩

/-- The colour leaves no trace when painted. -/
def isTransparent (c : Colour) : Bool := c.alpha == 0

/-! ## Hexadecimal spelling -/

/-- The value of an ASCII hexadecimal digit. -/
def digit? (c : Char) : Option Nat :=
  if '0' ≤ c ∧ c ≤ '9' then some (c.toNat - '0'.toNat)
  else if 'a' ≤ c ∧ c ≤ 'f' then some (c.toNat - 'a'.toNat + 10)
  else if 'A' ≤ c ∧ c ≤ 'F' then some (c.toNat - 'A'.toNat + 10)
  else none

/-- The byte with the given two hexadecimal digits. -/
def byte (high low : Nat) : UInt8 :=
  UInt8.ofNat (16 * high + low)

/-- The octet is the character of a hexadecimal digit. -/
def isHexOctet (b : UInt8) : Bool :=
  (48 ≤ b && b ≤ 57) || (65 ≤ b && b ≤ 70) || (97 ≤ b && b ≤ 102)

/-- A digit as a number (`parse_hex_digit`). -/
def readDigit (c : Char) : Except Fault UInt8 :=
  match digit? c with
  | some n => .ok (UInt8.ofNat n)
  | none => .error (.parse (.hexDigit c))

/-- The number that hexadecimal digits make. -/
def hexNumber? (cs : List Char) : Option Nat :=
  (cs.mapM digit?).map fun ns => ns.foldl (fun n digit => 16 * n + digit) 0

/-- The byte that hexadecimal digits make (`parse_hex_byte`). A plus sign may stand in front of
them. -/
def readByte (s : String) : Except Fault UInt8 :=
  let digits := match s.toList with
    | '+' :: cs => cs
    | cs => cs
  match if digits.isEmpty then none else hexNumber? digits with
  | some n => if n < 256 then .ok (UInt8.ofNat n) else .error (.parse (.hexByte s))
  | none => .error (.parse (.hexByte s))

/-- A digit that stands for itself twice. -/
def twice (digit : UInt8) : UInt8 :=
  digit <<< 4 ||| digit

/-- The colour of what stands behind the hash, all of it being hexadecimal digits (`parse_hex`). Of
six digits, two each make a byte. -/
def readDigits (hex : String) (invalid : Fault) : Except Fault Colour :=
  match hex.utf8ByteSize with
  | 3 => do
    let digits ← hex.toList.mapM readDigit
    let channel (n : Nat) := twice (digits[n]?.getD 0)
    return rgb (channel 0) (channel 1) (channel 2)
  | 6 => do
    let red ← readByte (Text.sliceOrEmpty hex 0 2)
    let green ← readByte (Text.sliceOrEmpty hex 2 4)
    let blue ← readByte (Text.sliceOrEmpty hex 4 6)
    return rgb red green blue
  | _ => .error invalid

/-- The colour that a text spells: a hash and three or six hexadecimal digits (`from_str`). -/
def parse (s : String) : Except Fault Colour :=
  match s.toList with
  | '#' :: cs =>
    let hex := String.ofList cs
    if hex.toUTF8.data.toList.all isHexOctet then readDigits hex (.parse (.hexColour s))
    else .error (.parse (.hexColour s))
  | _ => .error (.parse (.hexColour s))

/-- The capital hexadecimal digit of a number below 16. -/
def digitChar (n : Nat) : Char :=
  if n < 10 then Char.ofNat ('0'.toNat + n) else Char.ofNat ('A'.toNat + (n - 10))

/-- The two capital hexadecimal digits of a byte. -/
def byteChars (b : UInt8) : List Char :=
  [digitChar (b.toNat / 16), digitChar (b.toNat % 16)]

/-- The spelling of a colour in capitals, with its opacity unless that is full (`fmt`). -/
def text (c : Colour) : String :=
  String.ofList <| '#' :: byteChars c.red ++ byteChars c.green ++ byteChars c.blue ++
    (if c.alpha = 255 then [] else byteChars c.alpha)

/-! ## Opacity -/

/-- The opacity scaled by `percent`, of which anything above 100 counts as 100. -/
def withAlphaPercent (c : Colour) (percent : UInt8) : Colour :=
  { c with alpha := UInt8.ofNat ((c.alpha.toNat * min percent.toNat 100 + 50) / 100) }

end Colour

end CanvasScript
