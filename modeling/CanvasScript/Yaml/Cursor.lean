/-!
# Reading YAML character by character

* `isGap`, `isBreak`, `isWord`, `isFlowIndicator`: classes of characters.
* `isReadable`, `isPrintable`: the characters that a document may hold, and those that are written
  as they are.
* `Cursor`: what is left of a document, and where that is.
* `Cursor.ofText?`: the start of a document, its line breaks brought into one form.
* `Gap`: blanks and line breaks within a scalar, and the text they fold into.
-/

namespace CanvasScript.Yaml

/-! ## Characters -/

/-- A space or a tab. -/
def isGap (c : Char) : Bool := c == ' ' || c == '\t'

/-- A line break, once carriage returns and next-line characters have become line feeds. -/
def isBreak (c : Char) : Bool :=
  c == '\n' || c == '\u2028' || c == '\u2029'

/-- The characters of the names of anchors, directives and tags. -/
def isWord (c : Char) : Bool :=
  c.isAlphanum || c == '_' || c == '-'

/-- The characters that structure flow collections. -/
def isFlowIndicator (c : Char) : Bool :=
  c == ',' || c == '[' || c == ']' || c == '{' || c == '}'

/-- The characters that a document may hold. -/
def isReadable (c : Char) : Bool :=
  let n := c.toNat
  n == 9 || n == 10 || n == 13 || (0x20 ≤ n && n ≤ 0x7E) || n == 0x85 ||
    (0xA0 ≤ n && n ≤ 0xFFFD) || 0x10000 ≤ n

/-- The characters that are written as they are. -/
def isPrintable (c : Char) : Bool :=
  let n := c.toNat
  n == 10 || (0x20 ≤ n && n ≤ 0x7E) || (0xA0 ≤ n && n ≤ 0xFFFD && n != 0xFEFF) || 0x10000 ≤ n

/-- Characters in which carriage returns, with or without a line feed behind them, and next-line
characters have become line feeds. -/
def unifyBreaks : List Char → List Char
  | [] => []
  | '\r' :: '\n' :: cs => '\n' :: unifyBreaks cs
  | c :: cs => (if c == '\r' || c == '\u0085' then '\n' else c) :: unifyBreaks cs

/-! ## Cursors -/

/-- What is left of a document, and where that is. Lines and columns count from zero. -/
structure Cursor where
  rest : List Char
  /-- The number of characters of the whole document. -/
  size : Nat
  index : Nat := 0
  line : Nat := 0
  column : Nat := 0

namespace Cursor

/-- The start of a document that holds readable characters only. -/
def ofText? (s : String) : Option Cursor :=
  let cs := s.toList
  if cs.all isReadable then
    let rest := unifyBreaks cs
    some { rest, size := rest.length }
  else none

/-- The cursor behind the next character. -/
def next (c : Cursor) : Cursor :=
  match c.rest with
  | [] => c
  | x :: xs =>
    if isBreak x then { c with rest := xs, index := c.index + 1, line := c.line + 1, column := 0 }
    else { c with rest := xs, index := c.index + 1, column := c.column + 1 }

/-- The cursor behind `n` characters. -/
def skip : Cursor → Nat → Cursor
  | c, 0 => c
  | c, n + 1 => skip c.next n

variable (c : Cursor)

/-- The number of characters that are left. -/
def left : Nat := c.size - c.index

/-- The next character. -/
def peek : Option Char := c.rest.head?

/-- The character behind `n` others. -/
def peekAt (n : Nat) : Option Char := c.rest[n]?

/-- The next character is the given one. -/
def sees (x : Char) : Bool := c.peek == some x

/-- The next character has a property. -/
def seesAny (p : Char → Bool) : Bool := c.peek.any p

/-- Behind `n` characters there is a blank, a line break or the end. -/
def endsAt (n : Nat) : Bool :=
  match c.peekAt n with
  | some x => isGap x || isBreak x
  | none => true

/-- The number of characters of the longest run with a property. -/
def run (p : Char → Bool) : Nat := (c.rest.takeWhile p).length

/-- The cursor behind the longest run of characters with a property. -/
def skipWhile (p : Char → Bool) : Cursor := c.skip (c.run p)

/-- The longest run of characters with a property, and the cursor behind it. -/
def takeWhile (p : Char → Bool) : List Char × Cursor :=
  (c.rest.takeWhile p, c.skipWhile p)

/-- Three of the same character, then a blank or an end, at the start of a line. -/
def atMarker (x : Char) : Bool :=
  c.column == 0 && c.rest.take 3 == [x, x, x] && c.endsAt 3

/-- A document starts or ends here. -/
def atDocumentEdge : Bool := c.atMarker '-' || c.atMarker '.'

/-- The cursor behind the rest of the line, the line break left in place. -/
def skipLine : Cursor := c.skipWhile (!isBreak ·)

/-- The cursor behind a line break, if there is one. -/
def skipBreak : Cursor := if c.seesAny isBreak then c.next else c

/-- Behind blanks, and possibly a comment, the line has to end; the cursor at its end. -/
def lineEnd? : Option Cursor :=
  let c := c.skipWhile isGap
  let c := if c.sees '#' then c.skipLine else c
  if c.peek.all isBreak then some c else none

end Cursor

/-! ## Gaps -/

/-- Blanks and line breaks between the characters of a scalar. -/
structure Gap where
  /-- The blanks before the first line break. -/
  blanks : List Char := []
  breaks : List Char := []

namespace Gap

/-- There is nothing in the gap. -/
def isEmpty (g : Gap) : Bool := g.blanks.isEmpty && g.breaks.isEmpty

/-- The text that a gap stands for: a single line feed becomes a space, and the first of several
is dropped. -/
def text (g : Gap) : List Char :=
  match g.breaks with
  | [] => g.blanks
  | ['\n'] => [' ']
  | '\n' :: more => more
  | breaks => breaks

/-- The gap that goes on at a cursor, and the cursor behind it. In a new line no tab may stand
before the column `floor`. -/
def extend? (floor : Nat) : Nat → Gap → Cursor → Option (Gap × Cursor)
  | 0, g, c => some (g, c)
  | n + 1, g, c =>
    match c.peek with
    | none => some (g, c)
    | some x =>
      if isBreak x then extend? floor n { g with breaks := g.breaks ++ [x] } c.next
      else if !isGap x then some (g, c)
      else if g.breaks.isEmpty then extend? floor n { g with blanks := g.blanks ++ [x] } c.next
      else if x == '\t' && c.column < floor then none
      else extend? floor n g c.next

/-- The gap at a cursor, and the cursor behind it. -/
def read? (floor : Nat) (c : Cursor) : Option (Gap × Cursor) :=
  extend? floor c.left {} c

end Gap

end CanvasScript.Yaml
