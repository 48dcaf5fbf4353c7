import CanvasScript.Colour
import CanvasScript.Yaml.Cursor

/-!
# Reading scalars

The four ways in which a document spells a text.

* `Plain`, `plain?`: without marks, over as many lines as are indented far enough.
* `single?`, `double?`: between quotes, single ones being doubled and double ones escaped.
* `block?`: the lines below a `|` or `>`, kept or folded.
-/

namespace CanvasScript.Yaml

/-! ## Plain scalars -/

/-- A plain scalar that has been read. -/
structure Plain where
  text : String
  /-- Line breaks follow it that have been read too. -/
  brokeOff : Bool
  stop : Cursor

/-- The plain scalar that ends at `c`; `text` holds its characters, last first, and `gap` the blanks
behind them. -/
def Plain.finish (text : List Char) (gap : Gap) (c : Cursor) : Plain :=
  ⟨String.ofList text.reverse, !gap.breaks.isEmpty, c⟩

/-- A plain scalar goes on at `c`; `text` holds its characters so far, last first, and `gap` the
blanks behind them. -/
def plainFrom? (inFlow : Bool) (floor : Nat) : Nat → List Char → Gap → Cursor → Option Plain
  | 0, text, gap, c => some (.finish text gap c)
  | n + 1, text, gap, c =>
    if !gap.isEmpty && (c.atDocumentEdge || c.sees '#') then some (.finish text gap c)
    else
      match c.peek with
      | none => some (.finish text gap c)
      | some x =>
        if isGap x || isBreak x then
          match Gap.read? floor c with
          | none => none
          | some (gap, c) =>
            if !inFlow && c.column < floor then some (.finish text gap c)
            else plainFrom? inFlow floor n text gap c
        else if inFlow && x == ':' &&
            (c.peekAt 1).any (fun y => isFlowIndicator y || y == '?') then none
        else if (x == ':' && c.endsAt 1) || (inFlow && isFlowIndicator x) then
          some (.finish text gap c)
        else plainFrom? inFlow floor n (x :: (gap.text.reverse ++ text)) {} c.next

/-- The plain scalar at a cursor. Outside flow collections its lines have to reach the column
`floor`. -/
def plain? (inFlow : Bool) (floor : Nat) (c : Cursor) : Option Plain :=
  plainFrom? inFlow floor (2 * c.left + 1) [] {} c

/-! ## Quoted scalars -/

/-- A single-quoted scalar goes on at a cursor. -/
def singleFrom? : Nat → List Char → Cursor → Option (String × Cursor)
  | 0, _, _ => none
  | n + 1, text, c =>
    if c.atDocumentEdge then none
    else
      match c.peek with
      | none => none
      | some x =>
        if x == '\'' then
          if c.peekAt 1 == some '\'' then singleFrom? n ('\'' :: text) (c.skip 2)
          else some (String.ofList text.reverse, c.next)
        else if isGap x || isBreak x then
          match Gap.read? 0 c with
          | none => none
          | some (gap, c) => singleFrom? n (gap.text.reverse ++ text) c
        else singleFrom? n (x :: text) c.next

/-- The single-quoted scalar at a cursor. -/
def single? (c : Cursor) : Option (String × Cursor) :=
  singleFrom? (c.left + 1) [] c.next

/-- The character that a letter behind a backslash stands for. -/
def escape? (x : Char) : Option Char :=
  match x with
  | '0' => some '\x00'
  | 'a' => some '\x07'
  | 'b' => some '\x08'
  | 't' | '\t' => some '\t'
  | 'n' => some '\n'
  | 'v' => some '\x0b'
  | 'f' => some '\x0c'
  | 'r' => some '\r'
  | 'e' => some '\x1b'
  | ' ' | '"' | '/' | '\\' => some x
  | 'N' => some '\u0085'
  | '_' => some '\u00a0'
  | 'L' => some '\u2028'
  | 'P' => some '\u2029'
  | _ => none

/-- The number of hexadecimal digits behind a backslash and a letter. -/
def escapeLength? (x : Char) : Option Nat :=
  match x with
  | 'x' => some 2
  | 'u' => some 4
  | 'U' => some 8
  | _ => none

/-- The character that hexadecimal digits name. -/
def numbered? (digits : List Char) : Option Char := do
  let values ← digits.mapM Colour.digit?
  let n := values.foldl (fun n d => 16 * n + d) 0
  if n.isValidChar then some (Char.ofNat n) else none

/-- The character of the escape sequence at a cursor, and the cursor behind it. -/
def escapeAt? (c : Cursor) : Option (Char × Cursor) := do
  let x ← c.peekAt 1
  match escapeLength? x with
  | some n =>
    let digits := (c.rest.drop 2).take n
    if digits.length = n then return (← numbered? digits, c.skip (n + 2)) else none
  | none => return (← escape? x, c.skip 2)

/-- A double-quoted scalar goes on at a cursor. -/
def doubleFrom? : Nat → List Char → Cursor → Option (String × Cursor)
  | 0, _, _ => none
  | n + 1, text, c =>
    if c.atDocumentEdge then none
    else
      match c.peek with
      | none => none
      | some x =>
        if x == '"' then some (String.ofList text.reverse, c.next)
        else if x == '\\' then
          if (c.peekAt 1).any isBreak then
            match Gap.read? 0 (c.skip 2) with
            | none => none
            | some (gap, c) => doubleFrom? n (gap.breaks.reverse ++ text) c
          else
            match escapeAt? c with
            | none => none
            | some (y, c) => doubleFrom? n (y :: text) c
        else if isGap x || isBreak x then
          match Gap.read? 0 c with
          | none => none
          | some (gap, c) => doubleFrom? n (gap.text.reverse ++ text) c
        else doubleFrom? n (x :: text) c.next

/-- The double-quoted scalar at a cursor. -/
def double? (c : Cursor) : Option (String × Cursor) :=
  doubleFrom? (c.left + 1) [] c.next

/-! ## Block scalars -/

/-- What becomes of the line breaks at the end of a block scalar. -/
inductive Chomping where
  | strip
  | clip
  | keep
deriving DecidableEq

/-- The first line of a block scalar. -/
structure BlockHeader where
  chomping : Chomping := .clip
  /-- The indentation of its lines, if it is given. -/
  indentation? : Option Nat := none
  stop : Cursor

/-- The sign for chomping at a cursor. -/
def chompingAt? (c : Cursor) : Option Chomping :=
  if c.sees '+' then some .keep else if c.sees '-' then some .strip else none

/-- The digit for the indentation at a cursor. -/
def digitAt? (c : Cursor) : Option Nat :=
  if c.seesAny Char.isDigit then c.peek.map fun x => x.toNat - '0'.toNat else none

/-- The marks behind the `|` or `>`, in either order. -/
def blockMarks (c : Cursor) : Option Chomping × Option Nat × Cursor :=
  match chompingAt? c with
  | some s =>
    match digitAt? c.next with
    | some d => (some s, some d, c.skip 2)
    | none => (some s, none, c.next)
  | none =>
    match digitAt? c with
    | some d =>
      match chompingAt? c.next with
      | some s => (some s, some d, c.skip 2)
      | none => (none, some d, c.next)
    | none => (none, none, c)

/-- The first line of a block scalar, from behind the `|` or `>` on. -/
def blockHeader? (c : Cursor) : Option BlockHeader :=
  let (chomping?, indentation?, c) := blockMarks c
  if indentation? = some 0 then none
  else
    (c.lineEnd?).map fun c => ⟨chomping?.getD .clip, indentation?, c.skipBreak⟩

/-- Indentation up to a column `indent`, or all of it where that is zero, and empty lines: the
line breaks passed, the deepest column reached, and the cursor behind them. -/
def emptyLines? (indent : Nat) : Nat → List Char → Nat → Cursor →
    Option (List Char × Nat × Cursor)
  | 0, breaks, deepest, c => some (breaks, deepest, c)
  | n + 1, breaks, deepest, c =>
    if c.sees ' ' && (indent == 0 || c.column < indent) then
      emptyLines? indent n breaks deepest c.next
    else
      let deepest := max deepest c.column
      if c.sees '\t' && (indent == 0 || c.column < indent) then none
      else
        match c.peek with
        | some x =>
          if isBreak x then emptyLines? indent n (breaks ++ [x]) deepest c.next
          else some (breaks, deepest, c)
        | none => some (breaks, deepest, c)

/-- A block scalar in the making. -/
structure Block where
  /-- Characters, last first. -/
  text : List Char := []
  /-- The line break behind the last line. -/
  leading : List Char := []
  /-- The line breaks of empty lines behind that. -/
  trailing : List Char := []
  /-- The last line starts with a blank. -/
  blank : Bool := false

namespace Block

/-- The text up to the start of a new line, which starts with a blank or not. -/
def join (folded : Bool) (b : Block) (blank : Bool) : List Char :=
  if folded && b.leading == ['\n'] && !b.blank && !blank then
    b.trailing.reverse ++ (if b.trailing.isEmpty then ' ' :: b.text else b.text)
  else b.trailing.reverse ++ (b.leading.reverse ++ b.text)

/-- The lines at a cursor that are indented to a column. -/
def lines? (folded : Bool) (indent : Nat) : Nat → Block → Cursor → Option (Block × Cursor)
  | 0, b, c => some (b, c)
  | n + 1, b, c =>
    if c.column != indent || c.rest.isEmpty then some (b, c)
    else
      let blank := c.seesAny isGap
      let text := b.join folded blank
      let (line, c) := c.takeWhile (!isBreak ·)
      let leading := c.peek.toList
      match emptyLines? indent c.left [] 0 c.skipBreak with
      | none => none
      | some (trailing, _, c) =>
        lines? folded indent n ⟨line.reverse ++ text, leading, trailing, blank⟩ c

/-- The text of a finished block scalar. -/
def finish (b : Block) (chomping : Chomping) : String :=
  String.ofList (match chomping with
    | .strip => b.text.reverse
    | .clip => b.text.reverse ++ b.leading
    | .keep => b.text.reverse ++ b.leading ++ b.trailing)

end Block

/-- The block scalar at a cursor, whose lines reach at least the column `floor`. -/
def block? (folded : Bool) (floor : Nat) (c : Cursor) : Option (String × Cursor) := do
  let h ← blockHeader? c.next
  let given := match h.indentation? with
    | some d => (floor - 1) + d
    | none => 0
  let (trailing, deepest, c) ← emptyLines? given (2 * c.left) [] 0 h.stop
  let indent := if given = 0 then max (max deepest floor) 1 else given
  let (b, c) ← Block.lines? folded indent (c.left + 1) { trailing } c
  return (b.finish h.chomping, c)

end CanvasScript.Yaml
