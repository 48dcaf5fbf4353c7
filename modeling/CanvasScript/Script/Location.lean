import CanvasScript.Text.Slice

/-!
# Positions in a script

* `Location`: a byte offset together with its line and column. Lines and columns count from one,
  columns in characters.
* `Location.advance`: the location of an offset, counting only the text from a known location on;
  `Location.ofOffset` counts from the start.
* `Location.follow`: a cursor, which locates offsets one after the other.
* `Span`: the part of a script between two positions. It is generic in what a position is: the
  parser works with offsets, messages with locations.
-/

namespace CanvasScript.Script

/-- A byte offset, with the line and the column it stands in. -/
structure Location where
  offset : Nat
  line : Nat
  column : Nat
deriving DecidableEq, Inhabited, Repr

namespace Location

/-- The first character of a script. -/
def start : Location := ⟨0, 1, 1⟩

/-- The line and column behind a character; the offset is left alone. -/
def past (l : Location) (c : Char) : Location :=
  if c = '\n' then { l with line := l.line + 1, column := 1 }
  else { l with column := l.column + 1 }

/-- The location of `offset`, counted from `l` if `offset` is not behind it and from the start
otherwise. An offset beyond the end stands for the end. -/
def advance (l : Location) (source : String) (offset : Nat) : Location :=
  let offset := min offset source.utf8ByteSize
  let base := if offset < l.offset then start else l
  let passed := Text.sliceOrEmpty source base.offset offset
  { passed.toList.foldl past base with offset }

/-- The location of an offset, counted from the start (`Location.of`). -/
def ofOffset (source : String) (offset : Nat) : Location :=
  start.advance source offset

/-- Where a cursor at `l` is when it has located these offsets, each counted from the one before. -/
def follow (source : String) (l : Location) (offsets : List Nat) : Location :=
  offsets.foldl (·.advance source) l

/-- Line and column, as messages give them. -/
def text (l : Location) : String :=
  s!"{l.line}:{l.column}"

end Location

/-- The part of a script from `start` up to `stop`. -/
structure Span (π : Type) where
  start : π
  stop : π
deriving DecidableEq, Repr

namespace Span

/-- The number of bytes between the ends. -/
def length (s : Span Location) : Nat :=
  s.stop.offset - s.start.offset

/-- The text between the ends, empty if they do not delimit any. -/
def slice (s : Span Location) (source : String) : String :=
  Text.sliceOrEmpty source s.start.offset s.stop.offset

/-- Where the span starts, as messages give it. -/
def text (s : Span Location) : String :=
  s.start.text

end Span

end CanvasScript.Script
