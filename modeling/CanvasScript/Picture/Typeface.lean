import CanvasScript.Number.Single

/-!
# Typefaces

A typeface gives the outlines and widths of its glyphs in units of its own; a size in pixels says
how large they are drawn.

* `Glyph`: an advance and closed contours, with `y` growing upwards.
* `Typeface`: the glyphs by character, and how far pairs of them are moved together.
* `Typeface.isSound`: the typeface can be used at all.
* `Typeface.scale`: pixels per unit at a size.
* `Typeface.advance`, `Typeface.kerning`, `Typeface.lineHeight`: distances in pixels.
-/

namespace CanvasScript.Picture

open Number

/-- A glyph: its width, and contours whose last point is joined to the first. -/
structure Glyph where
  advance : Int := 0
  contours : List (List (Int × Int)) := []
deriving Inhabited

/-- Glyphs of a common design. -/
structure Typeface where
  /-- The units of the square that the glyphs are designed in. -/
  square : Nat := 1000
  ascent : Int := 800
  descent : Int := -200
  lineGap : Int := 0
  /-- Drawn for characters without a glyph. -/
  fallback : Glyph := {}
  glyphs : List (Char × Glyph) := []
  /-- Moves of the second character of a pair. -/
  pairs : List ((Char × Char) × Int) := []
deriving Inhabited

/-- The box around a glyph, in units. -/
structure GlyphBox where
  left : Int
  bottom : Int
  right : Int
  top : Int

/-- The box around the points of a glyph, if it has a width and a height. -/
def Glyph.box? (g : Glyph) : Option GlyphBox :=
  match g.contours.flatten with
  | [] => none
  | (x, y) :: points =>
    let b := points.foldl
      (fun (b : GlyphBox) q =>
        ⟨min b.left q.1, min b.bottom q.2, max b.right q.1, max b.top q.2⟩) ⟨x, y, x, y⟩
    if b.left < b.right ∧ b.bottom < b.top then some b else none

namespace Typeface

variable (t : Typeface)

/-- The square that the glyphs are designed in has a size that is in use. -/
def isSound : Bool := 16 ≤ t.square && t.square ≤ 16384

/-- The glyph of a character. -/
def glyph (c : Char) : Glyph :=
  (t.glyphs.lookup c).getD t.fallback

/-- Pixels per unit at a size. -/
def scale (size : Float32) : Float32 :=
  size / Float32.ofInt (t.ascent - t.descent)

/-- How far the next character is from `c`. -/
def advance (size : Float32) (c : Char) : Float32 :=
  t.scale size * Float32.ofInt (t.glyph c).advance

/-- How far `c` is moved when it follows `previous`. -/
def kerning (size : Float32) (previous c : Char) : Float32 :=
  if (t.glyphs.lookup previous).isSome && (t.glyphs.lookup c).isSome then
    match t.pairs.lookup (previous, c) with
    | some units => t.scale size * Float32.ofInt units
    | none => 0
  else 0

/-- How far the next line is below a line. -/
def lineHeight (size : Float32) : Float32 :=
  size + t.scale size * Float32.ofInt t.lineGap

end Typeface

end CanvasScript.Picture
