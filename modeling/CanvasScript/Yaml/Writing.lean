import CanvasScript.Number.Reading
import CanvasScript.Yaml.Cursor

/-!
# Writing scalars

* `Spelling`: the four ways to write a text.
* `looksTyped`: texts that would be taken for something else without quotes.
* `plainAllowed`, `singleAllowed`, `blockAllowed`: the spellings that keep a text as it is.
* `spelling`: the one that is used. A text with line feeds is written as a block, others as plain
  as they can be.
* `write`: a text in its spelling, behind a key or a dash.
-/

namespace CanvasScript.Yaml

/-- A way to write a text. -/
inductive Spelling where
  | plain
  | single
  | double
  | block
deriving DecidableEq, Repr

/-! ## Texts that are not taken for texts -/

/-- A sign that may stand before a number. -/
def isSign (c : Char) : Bool := c == '+' || c == '-'

/-- Digits of a base, and at least one. -/
def areDigits (base : Nat) (cs : List Char) : Bool :=
  !cs.isEmpty && cs.all fun c =>
    (c.isDigit && c.toNat - '0'.toNat < base) ||
      (base == 16 && (('a' ≤ c && c ≤ 'f') || ('A' ≤ c && c ≤ 'F')))

/-- The value of digits of a base. -/
def digitsIn (base : Nat) (cs : List Char) : Nat :=
  cs.foldl (fun n c =>
    base * n + (if c.isDigit then c.toNat - '0'.toNat else (c.toNat % 32) + 9)) 0

/-- The base that a letter behind a zero names. -/
def base? (c : Char) : Option Nat :=
  match c with
  | 'x' => some 16
  | 'o' => some 8
  | 'b' => some 2
  | _ => none

/-- Whole numbers are read up to this size. -/
def wholeLimit (negative : Bool) : Nat :=
  if negative then Nat.pow 2 127 else Nat.pow 2 128 - 1

/-- A whole number in base two, eight or sixteen. -/
def looksBased (s : String) : Bool :=
  let cs := s.toList
  let negative := cs.head? == some '-'
  match if cs.head?.any isSign then cs.tail else cs with
  | '0' :: b :: digits =>
    match base? b with
    | some base => areDigits base digits && digitsIn base digits ≤ wholeLimit negative
    | none => false
  | _ => false

/-- Digits that begin with a zero and do not end with it. -/
def isZeroPadded (s : String) : Bool :=
  let cs := s.toList
  match if cs.head?.any isSign then cs.tail else cs with
  | '0' :: c :: cs => (c :: cs).all Char.isDigit
  | _ => false

/-- The words for numbers that are not finite. -/
def specialNumbers : List String :=
  [".inf", ".Inf", ".INF", "+.inf", "+.Inf", "+.INF", "-.inf", "-.Inf", "-.INF", ".nan", ".NaN",
    ".NAN"]

/-- The words for nothing, true and false. -/
def typedWords : List String :=
  ["", "~", "null", "Null", "NULL", "true", "True", "TRUE", "false", "False", "FALSE"]

/-- Without quotes the text would be taken for something else, or might be. -/
def looksTyped (s : String) : Bool :=
  typedWords.contains s || specialNumbers.contains s || looksBased s || isZeroPadded s ||
    (Number.readFinite? s).isSome

/-! ## Marks within a text -/

/-- A blank, a line break or the end follows. -/
def endsBefore (cs : List Char) : Bool :=
  cs.head?.all fun c => isGap c || isBreak c || c == '\u0085' || c == '\r' || c == '\x00'

/-- The first character has a meaning of its own at the start of a scalar. -/
def marksStart : List Char → Bool
  | [] => false
  | c :: cs =>
    "#,[]\x7b\x7d&*!|>'\"%@\x60".toList.contains c ||
      ((c == '?' || c == ':' || c == '-') && endsBefore cs)

/-- Some later character has a meaning of its own: a colon at an end, a hash behind a blank. -/
def marksInside : List Char → Bool
  | c :: d :: cs =>
    (d == ':' && endsBefore cs) || (d == '#' && endsBefore [c]) || marksInside (d :: cs)
  | _ => false

/-- A space follows a line break somewhere, or the other way round. -/
def adjacent (p q : Char → Bool) : List Char → Bool
  | c :: d :: cs => (p c && q d) || adjacent p q (d :: cs)
  | _ => false

/-- The characters that break lines, in any form. -/
def breaksLine (c : Char) : Bool := isBreak c || c == '\r' || c == '\u0085'

/-- The text holds characters that only escapes can spell, or a space at the end of a line. -/
def needsEscapes (s : String) : Bool :=
  s.toList.any (!isPrintable ·) || adjacent (· == ' ') breaksLine s.toList

/-- The text keeps its meaning between single quotes. -/
def singleAllowed (s : String) : Bool :=
  !needsEscapes s && !adjacent breaksLine (· == ' ') s.toList

/-- The text keeps its meaning without quotes. -/
def plainAllowed (s : String) : Bool :=
  let cs := s.toList
  let edge (c : Char) : Bool := c == ' ' || breaksLine c
  singleAllowed s && !cs.any breaksLine && !cs.head?.any edge && !cs.getLast?.any edge &&
    !s.startsWith "---" && !s.startsWith "..." && !marksStart cs && !marksInside cs

/-- The text keeps its meaning as a block. -/
def blockAllowed (s : String) : Bool :=
  !needsEscapes s && s.toList.getLast? != some ' '

/-- How a text is written. -/
def spelling (s : String) : Spelling :=
  if s.toList.contains '\n' then if blockAllowed s then .block else .double
  else if !looksTyped s && plainAllowed s then .plain
  else if singleAllowed s then .single
  else .double

/-! ## The spellings -/

/-- Lines of a text within a collection are indented by this much. -/
def lineIndent : String := "  "

/-- Characters, with lines indented; `fresh` says that a line has just ended. -/
def indentLines (fresh : Bool) : List Char → List Char
  | [] => []
  | c :: cs =>
    if isBreak c then c :: indentLines true cs
    else (if fresh then lineIndent.toList else []) ++ c :: indentLines false cs

/-- How many line feeds are kept at the end of a block: none, one or all. -/
def chompingMark (s : String) : String :=
  match s.toList.reverse with
  | [] => "-"
  | c :: cs =>
    if !isBreak c then "-"
    else if cs.isEmpty || cs.head?.any isBreak then "+"
    else ""

/-- The indentation is given if the first line does not show it. -/
def indentMark (s : String) : String :=
  if s.toList.head?.any fun c => c == ' ' || isBreak c then "2" else ""

/-- The lines of a text below a `|`. -/
def block (s : String) : String :=
  "|" ++ indentMark s ++ chompingMark s ++ "\n" ++ String.ofList (indentLines true s.toList) ++
    (if s.toList.getLast?.any isBreak then "" else "\n")

/-- A text between single quotes, which are doubled within it. -/
def singleQuoted (s : String) : String :=
  let doubled := s.toList.flatMap fun c => if c == '\'' then ['\'', '\''] else [c]
  "'" ++ String.ofList (indentLines false doubled) ++
    (if s.toList.getLast?.any isBreak then lineIndent else "") ++ "'"

/-- Capital hexadecimal digits of a number, at least `n` of them. -/
def paddedHex (n value : Nat) : List Char :=
  let digits := (Nat.toDigits 16 value).map Char.toUpper
  List.replicate (n - digits.length) '0' ++ digits

/-- A character between double quotes. -/
def escaped (c : Char) : List Char :=
  match c with
  | '\x00' => ['\\', '0']
  | '\x07' => ['\\', 'a']
  | '\x08' => ['\\', 'b']
  | '\t' => ['\\', 't']
  | '\n' => ['\\', 'n']
  | '\x0b' => ['\\', 'v']
  | '\x0c' => ['\\', 'f']
  | '\r' => ['\\', 'r']
  | '\x1b' => ['\\', 'e']
  | '"' => ['\\', '"']
  | '\\' => ['\\', '\\']
  | '\u0085' => ['\\', 'N']
  | '\u2028' => ['\\', 'L']
  | '\u2029' => ['\\', 'P']
  | c =>
    if isPrintable c then [c]
    else if c.toNat ≤ 0xFF then '\\' :: 'x' :: paddedHex 2 c.toNat
    else if c.toNat ≤ 0xFFFF then '\\' :: 'u' :: paddedHex 4 c.toNat
    else '\\' :: 'U' :: paddedHex 8 c.toNat

/-- A text between double quotes. -/
def doubleQuoted (s : String) : String :=
  "\"" ++ String.ofList (s.toList.flatMap escaped) ++ "\""

/-- A text in its spelling, up to the end of its last line. -/
def write (s : String) : String :=
  match spelling s with
  | .plain => s ++ "\n"
  | .single => singleQuoted s ++ "\n"
  | .double => doubleQuoted s ++ "\n"
  | .block => block s

end CanvasScript.Yaml
