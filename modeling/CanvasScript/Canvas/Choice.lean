import CanvasScript.Fault

/-!
# Choices by name

* `TextAlign`, `OutlineKind`, `FontWeight`: the choices that scripts make by a word.
* `parse`: the choice that a word names; words are taken as they are written.
* `TextAlign.offsetFactor`: the share of a line that lies before its anchor.
* `OutlineKind.covers`: the distances from an edge that an outline paints.
-/

namespace CanvasScript.Canvas

/-- The first of some choices with a name, or the fault that lists them. -/
def parseChoice {α : Type} (what : String) (choices : List α) (name : α → String) (s : String) :
    Except Fault α :=
  match choices.find? (name · == s) with
  | some a => .ok a
  | none => .error (.parse (.unknownChoice what s (choices.map name)))

/-- Where the anchor of a line of text lies. -/
inductive TextAlign where
  | left
  | center
  | right
  | start
  | stop
deriving DecidableEq, Inhabited, Repr

namespace TextAlign

/-- All alignments. -/
def all : List TextAlign := [left, center, right, start, stop]

/-- The word for an alignment. -/
def name : TextAlign → String
  | left => "left"
  | center => "center"
  | right => "right"
  | start => "start"
  | stop => "end"

/-- The alignment that a word names. -/
def parse (s : String) : Except Fault TextAlign :=
  parseChoice "text alignment" all name s

/-- The share of a line that lies before its anchor; text runs from left to right. -/
def offsetFactor : TextAlign → Float32
  | left | start => 0
  | center => 0.5
  | right | stop => 1

end TextAlign

/-- Where an outline lies, seen from the edge of its shape. -/
inductive OutlineKind where
  | center
  | inner
  | outer
deriving DecidableEq, Inhabited, Repr

namespace OutlineKind

/-- All kinds of outlines. -/
def all : List OutlineKind := [center, inner, outer]

/-- The word for a kind. -/
def name : OutlineKind → String
  | center => "center"
  | inner => "inner"
  | outer => "outer"

/-- The kind that a word names. -/
def parse (s : String) : Except Fault OutlineKind :=
  parseChoice "outline type" all name s

/-- The signed distance from the edge lies within an outline of the given width. -/
def covers (k : OutlineKind) (distance width : Float32) : Bool :=
  match k with
  | center => distance.abs ≤ width / 2
  | inner => -width ≤ distance && distance ≤ 0
  | outer => 0 < distance && distance ≤ width

end OutlineKind

/-- The weight of a font. -/
inductive FontWeight where
  | thin
  | extraLight
  | light
  | regular
  | medium
  | semiBold
  | bold
  | extraBold
  | black
  | italic
  | boldItalic
deriving DecidableEq, Inhabited, Repr

namespace FontWeight

/-- All weights. -/
def all : List FontWeight :=
  [thin, extraLight, light, regular, medium, semiBold, bold, extraBold, black, italic, boldItalic]

/-- The word for a weight. -/
def name : FontWeight → String
  | thin => "thin"
  | extraLight => "extraLight"
  | light => "light"
  | regular => "regular"
  | medium => "medium"
  | semiBold => "semiBold"
  | bold => "bold"
  | extraBold => "extraBold"
  | black => "black"
  | italic => "italic"
  | boldItalic => "boldItalic"

/-- The weight that a word names. -/
def parse (s : String) : Except Fault FontWeight :=
  parseChoice "font weight" all name s

end FontWeight

end CanvasScript.Canvas
