import CanvasScript.Yaml.Scalar

/-!
# The tokens of a document

* `Token`: the marks and scalars of a document. The blocks that indentation delimits have tokens
  for their ends as well.
* `Scanner`: the tokens found so far, and what the next characters can be. A scalar turns out to
  be a key when a colon follows it in the same line; until then it is a `Candidate`.
* `Scanner.fetch?`: one token more.
* `tokens?`: all tokens of a document.
-/

namespace CanvasScript.Yaml

/-- A mark or a scalar. -/
inductive Token where
  | documentStart
  | documentEnd
  | blockSequence
  | blockMapping
  /-- The indentation ends that the innermost block began with. -/
  | blockEnd
  | flowSequence
  | flowSequenceEnd
  | flowMapping
  | flowMappingEnd
  /-- The `-` before an item of a block sequence. -/
  | item
  | comma
  /-- A key follows. -/
  | key
  /-- The value of a key follows. -/
  | value
  | scalar (text : String) (plain : Bool)
  | anchor (name : String)
  | alias (name : String)
  /-- A tag with a shorthand, which is empty if the tag is spelt out. -/
  | tag (handle : String)
  | version (major minor : Nat)
  /-- A shorthand for tags is declared. -/
  | tagHandle (handle : String)
deriving DecidableEq, Repr

/-- A token that is a key if a colon follows. -/
structure Candidate where
  /-- The number of tokens before it. -/
  token : Nat
  /-- A colon has to follow. -/
  required : Bool
  start : Cursor

/-- Keys without a mark have at most this many characters. -/
def maxKeyLength : Nat := 1024

/-- What has been read, and what can follow. -/
structure Scanner where
  cursor : Cursor
  tokens : Array Token := #[]
  /-- The columns of the open blocks, innermost first. -/
  indents : List Nat := []
  candidate? : Option Candidate := none
  /-- The candidates around the open flow collections, innermost first. -/
  outer : List (Option Candidate) := []
  /-- A key without a mark, or a block, can start here. -/
  keyAllowed : Bool := true

namespace Scanner

variable (s : Scanner)

/-- A flow collection is open. -/
def inFlow : Bool := !s.outer.isEmpty

/-- The least column of what belongs to the innermost block. -/
def floor : Nat :=
  match s.indents with
  | [] => 0
  | column :: _ => column + 1

/-- One token more. -/
def emit (t : Token) : Scanner :=
  { s with tokens := s.tokens.push t }

/-- A token put before the last ones, `n` tokens being in front of it. -/
def emitAt (n : Nat) (t : Token) : Scanner :=
  { s with tokens := s.tokens.insertIdxIfInBounds n t }

/-- The next `n` characters belong to a token. -/
def pass (n : Nat) (t : Token) : Scanner :=
  { s.emit t with cursor := s.cursor.skip n }

/-! ## Candidates -/

/-- There is no candidate any more; a required one must not be lost. -/
def dropCandidate? : Option Scanner :=
  if s.candidate?.any (·.required) then none else some { s with candidate? := none }

/-- The token that starts here is a candidate, if there can be one. -/
def saveCandidate? : Option Scanner :=
  if s.keyAllowed then
    (s.dropCandidate?).map fun s =>
      { s with
        candidate? := some
          { token := s.tokens.size
            required := !s.inFlow && s.indents.head? == some s.cursor.column
            start := s.cursor } }
  else some s

/-- The candidate is too far away. -/
def isStale (k : Candidate) : Bool :=
  k.start.line < s.cursor.line || k.start.index + maxKeyLength < s.cursor.index

/-- A candidate unless it is too far away; a required one must not be. -/
def refresh? (k? : Option Candidate) : Option (Option Candidate) :=
  match k? with
  | some k => if s.isStale k then (if k.required then none else some none) else some k?
  | none => some none

/-- The candidates that are not too far away. -/
def refreshAll? : Option Scanner := do
  let candidate? ← s.refresh? s.candidate?
  let outer ← s.outer.mapM s.refresh?
  return { s with candidate?, outer }

/-! ## Blocks -/

/-- Blocks that a token in a column ends, given the columns of the open ones. -/
def unrollFrom (column? : Option Nat) (s : Scanner) : List Nat → Scanner
  | [] => { s with indents := [] }
  | indent :: indents =>
    if column?.any (indent ≤ ·) then { s with indents := indent :: indents }
    else unrollFrom column? (s.emit .blockEnd) indents

/-- All blocks end that are indented further than a column, or all blocks at the end of a
document. -/
def unroll (column? : Option Nat) : Scanner :=
  if s.inFlow then s else unrollFrom column? s s.indents

/-- A block begins in a column if it is indented further than the others; its token is put behind
`n` others. -/
def roll (column n : Nat) (t : Token) : Scanner :=
  if s.inFlow || column < s.floor then s
  else { s.emitAt n t with indents := column :: s.indents }

/-! ## Marks -/

/-- A document ends or starts. -/
def documentEdge? (t : Token) : Option Scanner :=
  ((s.unroll none).dropCandidate?).map fun s => { s.pass 3 t with keyAllowed := false }

/-- A flow collection opens. -/
def openFlow? (t : Token) : Option Scanner :=
  (s.saveCandidate?).map fun s =>
    { s.pass 1 t with
      outer := s.candidate? :: s.outer
      candidate? := none
      keyAllowed := true }

/-- A flow collection closes. -/
def closeFlow? (t : Token) : Option Scanner :=
  (s.dropCandidate?).map fun s =>
    let s : Scanner := { s.pass 1 t with keyAllowed := false }
    match s.outer with
    | [] => s
    | k? :: outer => { s with candidate? := k?, outer }

/-- A comma. -/
def comma? : Option Scanner :=
  (s.dropCandidate?).map fun s => { s.pass 1 .comma with keyAllowed := true }

/-- An item of a block sequence. -/
def item? : Option Scanner :=
  if !s.inFlow && !s.keyAllowed then none
  else
    ((s.roll s.cursor.column s.tokens.size .blockSequence).dropCandidate?).map fun s =>
      { s.pass 1 .item with keyAllowed := true }

/-- A key with a mark. -/
def key? : Option Scanner :=
  if !s.inFlow && !s.keyAllowed then none
  else
    ((s.roll s.cursor.column s.tokens.size .blockMapping).dropCandidate?).map fun s =>
      { s.pass 1 .key with keyAllowed := !s.inFlow }

/-- A colon: the candidate is a key, or the value has no key. -/
def value? : Option Scanner :=
  match s.candidate? with
  | some k =>
    let s := (s.emitAt k.token .key).roll k.start.column k.token .blockMapping
    some { s.pass 1 .value with candidate? := none, keyAllowed := false }
  | none =>
    if !s.inFlow && !s.keyAllowed then none
    else
      let s := s.roll s.cursor.column s.tokens.size .blockMapping
      some { s.pass 1 .value with keyAllowed := !s.inFlow }

/-! ## Anchors, aliases and tags -/

/-- The characters that may follow the name of an anchor. -/
def endsAnchor (x : Char) : Bool :=
  isGap x || isBreak x || x == '?' || x == ':' || x == ',' || x == ']' || x == '\x7d' ||
    x == '%' || x == '@' || x == '\x60'

/-- An anchor or an alias. -/
def named? (t : String → Token) : Option Scanner := do
  let s ← s.saveCandidate?
  let (name, c) := s.cursor.next.takeWhile isWord
  if name.isEmpty || !c.peek.all endsAnchor then none
  else return { s.emit (t (String.ofList name)) with cursor := c, keyAllowed := false }

/-- The characters of tags. -/
def isTagChar (spelt : Bool) (x : Char) : Bool :=
  isWord x || ";/?:@&=+$.%!~*'()".toList.contains x || (spelt && ",[]".toList.contains x)

/-- The octets behind percent signs. -/
def octets? : Nat → List Char → Option (List UInt8 × List Char)
  | n + 1, '%' :: a :: b :: cs => do
    let high ← Colour.digit? a
    let low ← Colour.digit? b
    let (bytes, cs) ← octets? n cs
    return (Colour.byte high low :: bytes, cs)
  | _, '%' :: _ => none
  | _, cs => some ([], cs)

/-- Percent signs are followed by the octets of characters. -/
def wellEscaped : Nat → List Char → Bool
  | n + 1, '%' :: cs =>
    match octets? (n + 1) ('%' :: cs) with
    | some (bytes, cs) => (ByteArray.mk bytes.toArray).validateUTF8 && wellEscaped n cs
    | none => false
  | n + 1, _ :: cs => wellEscaped n cs
  | _, _ => true

/-- The characters of a tag at a cursor, and the cursor behind them. -/
def tagText? (spelt : Bool) (c : Cursor) : Option (List Char × Cursor) :=
  let (text, c) := c.takeWhile (isTagChar spelt)
  if wellEscaped text.length text then some (text, c) else none

/-- The shorthand of a tag at a cursor: an exclamation mark, and a word and another mark if that
follows; and the cursor behind it. -/
def tagHandle? (c : Cursor) : Option (String × Cursor) :=
  if c.sees '!' then
    let (word, d) := c.next.takeWhile isWord
    if d.sees '!' then some (String.ofList ('!' :: word ++ ['!']), d.next) else some ("!", c.next)
  else none

/-- The tag at a cursor: its shorthand, and the cursor behind it. -/
def tagAt? (c : Cursor) : Option (String × Cursor) :=
  if c.peekAt 1 == some '<' then do
    let (text, c) ← tagText? true (c.skip 2)
    if text.isEmpty || !c.sees '>' then none else return ("", c.next)
  else do
    let (handle, c) ← tagHandle? c
    let (text, c) ← tagText? false c
    if handle.length > 1 && text.isEmpty then none
    else return (if text.isEmpty then "" else handle, c)

/-- A tag. -/
def tag? : Option Scanner := do
  let s ← s.saveCandidate?
  let (handle, c) ← tagAt? s.cursor
  if c.endsAt 0 || (s.inFlow && c.sees ',') then
    return { s.emit (.tag handle) with cursor := c, keyAllowed := false }
  else none

/-! ## Directives -/

/-- A number of at most nine digits at a cursor, and the cursor behind it. -/
def number? (c : Cursor) : Option (Nat × Cursor) :=
  let (digits, c) := c.takeWhile Char.isDigit
  if digits.isEmpty || 9 < digits.length then none
  else some (digits.foldl (fun n d => 10 * n + (d.toNat - '0'.toNat)) 0, c)

/-- The version that a directive names. -/
def versionAt? (c : Cursor) : Option (Token × Cursor) := do
  let (major, c) ← number? (c.skipWhile isGap)
  if c.sees '.' then
    let (minor, c) ← number? c.next
    return (.version major minor, c)
  else none

/-- The shorthand that a directive declares. -/
def handleAt? (c : Cursor) : Option (Token × Cursor) := do
  let start := c.skipWhile isGap
  let (handle, c) ← tagHandle? start
  if !c.seesAny isGap then none
  else
    let (text, c) ← tagText? true (c.skipWhile isGap)
    if text.isEmpty || !c.endsAt 0 then none else return (.tagHandle handle, c)

/-- The directive behind a percent sign. -/
def directiveAt? (c : Cursor) : Option (Token × Cursor) := do
  let (name, c) := c.takeWhile isWord
  let (t, c) ←
    if !c.endsAt 0 then none
    else if name = "YAML".toList then versionAt? c
    else if name = "TAG".toList then handleAt? c
    else none
  let c ← c.lineEnd?
  return (t, c.skipBreak)

/-- A directive. -/
def directive? : Option Scanner := do
  let s ← (s.unroll none).dropCandidate?
  let (t, c) ← directiveAt? s.cursor.next
  return { s.emit t with cursor := c, keyAllowed := false }

/-! ## Scalars -/

/-- A quoted scalar. -/
def quoted? (read? : Cursor → Option (String × Cursor)) : Option Scanner := do
  let s ← s.saveCandidate?
  let (text, c) ← read? s.cursor
  return { s.emit (.scalar text false) with cursor := c, keyAllowed := false }

/-- A block scalar. -/
def blockScalar? (folded : Bool) : Option Scanner := do
  let s ← s.dropCandidate?
  let (text, c) ← block? folded s.floor s.cursor
  return { s.emit (.scalar text false) with cursor := c, keyAllowed := true }

/-- A plain scalar. -/
def plainScalar? : Option Scanner := do
  let s ← s.saveCandidate?
  let p ← plain? s.inFlow s.floor s.cursor
  return { s.emit (.scalar p.text true) with cursor := p.stop, keyAllowed := p.brokeOff }

/-! ## One token -/

/-- The cursor behind blanks, comments and line breaks. Tabs must not indent blocks. A mark of the
order of octets may start any line. -/
def toNextToken (s : Scanner) : Nat → Scanner
  | 0 => s
  | n + 1 =>
    let c := if s.cursor.column == 0 && s.cursor.sees '\ufeff' then s.cursor.next else s.cursor
    let c := c.skipWhile fun x => x == ' ' || (x == '\t' && (s.inFlow || !s.keyAllowed))
    let c := if c.sees '#' then c.skipLine else c
    if c.seesAny isBreak then
      toNextToken { s with cursor := c.next, keyAllowed := s.keyAllowed || !s.inFlow } n
    else { s with cursor := c }

/-- The token that begins with a character. -/
def fetch? (x : Char) : Option Scanner :=
  let c := s.cursor
  if c.column == 0 && x == '%' then s.directive?
  else if c.atMarker '-' then s.documentEdge? .documentStart
  else if c.atMarker '.' then s.documentEdge? .documentEnd
  else if x == '[' then s.openFlow? .flowSequence
  else if x == '\x7b' then s.openFlow? .flowMapping
  else if x == ']' then s.closeFlow? .flowSequenceEnd
  else if x == '\x7d' then s.closeFlow? .flowMappingEnd
  else if x == ',' then s.comma?
  else if x == '-' && c.endsAt 1 then s.item?
  else if x == '?' && (s.inFlow || c.endsAt 1) then s.key?
  else if x == ':' && (s.inFlow || c.endsAt 1) then s.value?
  else if x == '*' then s.named? .alias
  else if x == '&' then s.named? .anchor
  else if x == '!' then s.tag?
  else if x == '|' && !s.inFlow then s.blockScalar? false
  else if x == '>' && !s.inFlow then s.blockScalar? true
  else if x == '\'' then s.quoted? single?
  else if x == '"' then s.quoted? double?
  else if x == '\t' || "#|>%@\x60".toList.contains x then none
  else s.plainScalar?

/-- All tokens from here on; there are fewer characters left than the bound. -/
def finish? : Nat → Scanner → Option (Array Token)
  | 0, _ => none
  | n + 1, s => do
    let s ← (s.toNextToken (n + 1)).refreshAll?
    let s := s.unroll (some s.cursor.column)
    match s.cursor.peek with
    | none =>
      let s ← (s.unroll none).dropCandidate?
      return s.tokens
    | some x => finish? n (← s.fetch? x)

end Scanner

/-- The tokens of a document. -/
def tokens? (s : String) : Option (List Token) := do
  let c ← Cursor.ofText? s
  let tokens ← Scanner.finish? (c.left + 1) { cursor := c }
  return tokens.toList

end CanvasScript.Yaml
