import CanvasScript.Text.Case
import CanvasScript.Text.EscapedTable

/-!
# Quoted text

How a message shows a piece of text that it received: between double quotes, so that its ends and
its invisible characters can be seen.

* `quote`: NUL, tab, carriage return, line feed, the quote and the backslash are written with a
  backslash and a letter or themselves; other characters without a form of their own are written
  by number; every other character stands for itself.
-/

namespace CanvasScript.Text

/-- Lower-case hexadecimal digits of a number, without leading zeros. -/
def hexDigits (n : Nat) : List Char :=
  Nat.toDigits 16 n

/-- The character is written by its number. -/
def isEscaped (c : Char) : Bool :=
  c.toNat < 0x20 || (0x7F ≤ c.toNat && inRanges escapedRanges c.toNat)

/-- A character as it stands between the quotes. -/
def quoteChar (c : Char) : List Char :=
  if c.toNat = 0 then ['\\', '0']
  else if c = '\t' then ['\\', 't']
  else if c = '\r' then ['\\', 'r']
  else if c = '\n' then ['\\', 'n']
  else if c = '"' ∨ c = '\\' then ['\\', c]
  else if isEscaped c then ['\\', 'u', '\x7b'] ++ hexDigits c.toNat ++ ['\x7d']
  else [c]

/-- A text between double quotes. -/
def quote (s : String) : String :=
  String.ofList ('"' :: s.toList.flatMap quoteChar ++ ['"'])

end CanvasScript.Text
