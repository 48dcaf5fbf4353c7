import CanvasScript.Data.Octets
import CanvasScript.Picture.Typeface

/-!
# Typeface files

Typefaces in the TrueType format: tables of measures, of outlines, and of the characters they are
for.

* `Tables`: the tables of a file, and the measures that the others are read with.
* `Tables.glyph`: the width and the contours of a glyph. Contours are made of straight pieces; a
  curve becomes a few of them.
* `Tables.characters`: the glyphs of characters.
* `Tables.moves`: how far glyphs are moved towards each other.
* `TrueType.read?`: the typeface of a file.
-/

namespace CanvasScript.Picture

open Octets

namespace TrueType

/-! ## Tables -/

/-- Words that files with a list of tables begin with. -/
def headWords : List Nat := [0x00010000, 0x74727565, 0x4f54544f]

/-- The word that files with several typefaces begin with. -/
def collectionWord : Nat := 0x74746366

/-- The place of the first typeface of a file. One with several of them has a list of their places
behind twelve octets. -/
def start? (file : ByteArray) : Option Nat :=
  if nat file 0 4 = collectionWord then
    let stop := 12 + 4 * nat file 8 4
    let start := nat file 12 4
    if 12 < stop ∧ stop ≤ file.size ∧ stop ≤ start then some start else none
  else some 0

/-- The tables of a file by their names, the last one first, as far as they are within it. -/
def directory? (file : ByteArray) : Option (List (ByteArray × Option ByteArray)) := do
  let start ← start? file
  let count := nat file (start + 4) 2
  if nat file start 4 ∈ headWords ∧ start + 12 + 16 * count ≤ file.size then
    some (((List.range count).map fun k =>
      let i := start + 12 + 16 * k
      let first := nat file (i + 8) 4
      let size := nat file (i + 12) 4
      (slice file i 4,
        if first + size ≤ file.size then some (slice file first size) else none)).reverse)
  else none

/-- The tables of a file. -/
structure Tables where
  /-- The units of the square that the glyphs are designed in. -/
  square : Nat
  ascent : Int
  descent : Int
  lineGap : Int
  /-- The number of glyphs. -/
  count : Nat
  /-- The number of glyphs with a width of their own; the others are as wide as the last of them. -/
  widths : Nat
  /-- Places of outlines are given in four octets. -/
  long : Bool
  widthTable : ByteArray
  placeTable : ByteArray
  outlineTable : ByteArray
  characterTable : ByteArray
  moveTable : ByteArray

/-- The tables of a file. There have to be those that tell the measures, in a form that is known. -/
def Tables.read? (file : ByteArray) : Option Tables := do
  let known ← directory? file
  let table (name : String) : ByteArray :=
    match known.find? fun t => t.1.data == name.toUTF8.data with
    | some (_, some t) => t
    | _ => ByteArray.empty
  let head := table "head"
  let measures := table "hhea"
  let extent := table "maxp"
  if 54 ≤ head.size ∧ nat head 50 2 ≤ 1 ∧ 36 ≤ measures.size ∧ 6 ≤ extent.size ∧
      nat extent 0 4 ∈ [0x00005000, 0x00010000] ∧ 0 < nat extent 4 2 then
    some {
      square := nat head 18 2
      ascent := int measures 4 2
      descent := int measures 6 2
      lineGap := int measures 8 2
      count := nat extent 4 2
      widths := nat measures 34 2
      long := nat head 50 2 = 1
      widthTable := table "hmtx"
      placeTable := table "loca"
      outlineTable := table "glyf"
      characterTable := table "cmap"
      moveTable := table "kern" }
  else none

/-! ## Contours -/

/-- A point of a contour; those that are not on the contour pull it towards them. -/
structure Point where
  x : Int
  y : Int
  onContour : Bool

/-- The point in the middle between two points, on the contour. -/
def Point.middle (p q : Point) : Point :=
  ⟨(p.x + q.x) / 2, (p.y + q.y) / 2, true⟩

/-- How many straight pieces a curve becomes. -/
def pieceCount : Nat := 8

/-- The points of a curve from `p` to `r`, pulled towards `q`, without its first point. -/
def curve (p q r : Point) : List (Int × Int) :=
  (List.range pieceCount).map fun (k : Nat) =>
    let t := Int.ofNat (k + 1)
    let s := Int.ofNat pieceCount - t
    let whole := Int.ofNat (pieceCount * pieceCount)
    ((s * s * p.x + 2 * s * t * q.x + t * t * r.x) / whole,
      (s * s * p.y + 2 * s * t * q.y + t * t * r.y) / whole)

/-- The rest of a contour behind a point on it, which ends at `stop`. -/
def follow (stop p : Point) : List Point → List (Int × Int)
  | [] => []
  | q :: points =>
    if q.onContour then (q.x, q.y) :: follow stop q points
    else
      let r :=
        match points with
        | [] => stop
        | next :: _ => if next.onContour then next else q.middle next
      curve p q r ++ follow stop r points

/-- A point on a contour, and the points behind it. -/
def startOf : List Point → Option (Point × List Point)
  | [] => none
  | p :: points =>
    if p.onContour then some (p, points)
    else
      match points.getLast? with
      | some last => some (if last.onContour then last else p.middle last, p :: points)
      | none => none

/-- A contour as straight pieces. -/
def straighten (points : List Point) : List (Int × Int) :=
  match startOf points with
  | some (p, rest) => (p.x, p.y) :: follow p p rest
  | none => []

/-! ## Outlines -/

/-- A bit of a number. -/
def hasBit (n k : Nat) : Bool := (n >>> k) % 2 == 1

/-- The marks of `n` points from a place on, the last one first, and the place behind them; a mark
may be repeated. -/
def readMarks (b : ByteArray) (n : Nat) : Nat → Nat → List Nat → List Nat × Nat
  | 0, i, marks => (marks, i)
  | fuel + 1, i, marks =>
    if n ≤ marks.length then (marks, i)
    else
      let mark := get b i
      if hasBit mark 3 then
        readMarks b n fuel (i + 2) (List.replicate (get b (i + 1) + 1) mark ++ marks)
      else readMarks b n fuel (i + 1) (mark :: marks)

/-- Coordinates from a place on, by the marks of the points, and the place behind them. The bit
`short` of a mark says that there is one octet, and the bit `same` what its sign is, or that there
is none at all. -/
def readCoordinates (b : ByteArray) (short same : Nat) :
    List Nat → Nat → Int → List Int × Nat
  | [], i, _ => ([], i)
  | mark :: marks, i, last =>
    let (step, size) : Int × Nat :=
      if hasBit mark short then
        (if hasBit mark same then (get b i : Int) else -(get b i : Int), 1)
      else if hasBit mark same then (0, 0)
      else (int b i 2, 2)
    let (others, i) := readCoordinates b short same marks (i + size) (last + step)
    ((last + step) :: others, i)

/-- Points as contours, by the numbers of the last points of contours. -/
def split : List Nat → Nat → List Point → List (List Point)
  | [], _, _ => []
  | stop :: stops, first, points =>
    let n := stop + 1 - first
    points.take n :: split stops (max first (stop + 1)) (points.drop n)

/-- The contours of an outline that is made of points. -/
def simpleContours (b : ByteArray) (n : Nat) : List (List (Int × Int)) :=
  let stops := (List.range n).map fun k => nat b (10 + 2 * k) 2
  let count := stops.foldl (fun m stop => max m (stop + 1)) 0
  let start := 12 + 2 * n + nat b (10 + 2 * n) 2
  let (marks, i) := readMarks b count count start []
  let marks := (marks.reverse).take count
  let (xs, i) := readCoordinates b 1 4 marks i 0
  let (ys, _) := readCoordinates b 2 5 marks i 0
  let points := (marks.zip (xs.zip ys)).map fun (mark, x, y) => ⟨x, y, hasBit mark 0⟩
  (split stops 0 points).map straighten

namespace Tables

variable (t : Tables)

/-- The number of places of outlines that are known, at most one more than there are glyphs. -/
def places : Nat :=
  min (t.count + 1) (t.placeTable.size / if t.long then 4 else 2)

/-- The octets of an outline; there are none unless they are all within the table. -/
def outline (glyph : Nat) : ByteArray :=
  let place (k : Nat) :=
    if t.long then nat t.placeTable (4 * k) 4 else 2 * nat t.placeTable (2 * k) 2
  if glyph + 1 < t.places ∧ place (glyph + 1) ≤ t.outlineTable.size then
    t.outlineTable.extract (place glyph) (place (glyph + 1))
  else ByteArray.empty

/-- A part of an outline that is made of others: another glyph, how far it is moved and stretched,
and whether more parts follow behind a place. -/
structure Part where
  glyph : Nat
  dx : Int
  dy : Int
  /-- The factors of both directions, in units of `1 / 16384`. -/
  sx : Int
  sy : Int
  more : Bool
  stop : Nat

/-- The part at a place. -/
def part (b : ByteArray) (i : Nat) : Part :=
  let marks := nat b i 2
  let wide := hasBit marks 0
  let offset (k : Nat) : Int :=
    if hasBit marks 1 then (if wide then int b (i + 4 + 2 * k) 2 else int b (i + 4 + k) 1) else 0
  let j := i + 4 + (if wide then 4 else 2)
  let (sx, sy, size) : Int × Int × Nat :=
    if hasBit marks 3 then (int b j 2, int b j 2, 2)
    else if hasBit marks 6 then (int b j 2, int b (j + 2) 2, 4)
    else if hasBit marks 7 then (int b j 2, int b (j + 6) 2, 8)
    else (16384, 16384, 0)
  { glyph := nat b (i + 2) 2, dx := offset 0, dy := offset 1, sx, sy
    more := hasBit marks 5, stop := j + size }

/-- The parts from a place on; `fuel` bounds their number. -/
def parts (b : ByteArray) : Nat → Nat → List Part
  | 0, _ => []
  | fuel + 1, i =>
    let p := part b i
    p :: (if p.more then parts b fuel p.stop else [])

/-- A point of a part, where the part is. -/
def Part.place (p : Part) (q : Int × Int) : Int × Int :=
  (q.1 * p.sx / 16384 + p.dx, q.2 * p.sy / 16384 + p.dy)

/-- The contours of a glyph, which may have parts within parts `depth` times. -/
def contours : Nat → Nat → List (List (Int × Int))
  | 0, _ => []
  | depth + 1, glyph =>
    let b := t.outline glyph
    let n := int b 0 2
    if b.isEmpty then []
    else if 0 ≤ n then simpleContours b n.toNat
    else
      (parts b b.size 10).flatMap fun p =>
        (contours depth p.glyph).map fun points => points.map p.place

/-- How deep parts of glyphs may be within others. -/
def depthLimit : Nat := 6

/-- The width of a glyph. -/
def width (n : Nat) : Nat :=
  if n < max t.widths t.count ∧ 0 < t.widths ∧ 4 * t.widths ≤ t.widthTable.size then
    nat t.widthTable (4 * min n (t.widths - 1)) 2
  else 0

/-- A glyph by its number. -/
def glyph (n : Nat) : Glyph where
  advance := t.width n
  contours := t.contours depthLimit n

/-! ## Characters -/

/-- The characters in a range and their glyphs, in a table of ranges with differences. The octets
begin with the table itself. -/
def rangeCharacters (b : ByteArray) (ranges k : Nat) : List (Nat × Nat) :=
  let last := nat b (14 + 2 * k) 2
  let first := nat b (16 + 2 * ranges + 2 * k) 2
  let difference := nat b (16 + 4 * ranges + 2 * k) 2
  let place := 16 + 6 * ranges + 2 * k
  let offset := nat b place 2
  (List.range (last + 1 - first)).filterMap fun j =>
    let c := first + j
    if offset = 0 then some (c, (c + difference) % 65536)
    else
      let n := nat b (place + offset + 2 * j) 2
      if offset = 65535 ∨ n = 0 then none else some (c, (n + difference) % 65536)

/-- Characters that follow each other, and their glyphs from a place on, each in `size` octets. -/
def rowCharacters (b : ByteArray) (first count place size : Nat) : List (Nat × Nat) :=
  (List.range (min count (b.size / size))).map fun j => (first + j, nat b (place + size * j) size)

/-- The characters of a table and their glyphs, if it has a form that can be read. -/
def tableCharacters? (b : ByteArray) : Option (List (Nat × Nat)) :=
  match nat b 0 2 with
  | 0 => some (rowCharacters b 0 256 6 1)
  | 4 =>
    let ranges := nat b 6 2 / 2
    some ((List.range ranges).flatMap (rangeCharacters b ranges))
  | 6 => some (rowCharacters b (nat b 6 2) (nat b 8 2) 10 2)
  | 10 => some (rowCharacters b (nat b 12 4) (nat b 16 4) 20 2)
  | 12 =>
    some ((List.range (min (nat b 12 4) (b.size / 12))).flatMap fun k =>
      let i := 16 + 12 * k
      let first := nat b i 4
      (List.range (min (nat b (i + 4) 4 + 1 - first) t.count)).map fun j =>
        (first + j, nat b (i + 8) 4 + j))
  | _ => none

/-- A table is for characters by their numbers: by its platform and encoding, and by its form. -/
def isByNumber (platform encoding form : Nat) : Bool :=
  platform == 0 || (platform == 3 && (encoding == 1 || (encoding == 10 && form == 12)))

/-- The characters with a glyph. What tables say first holds. -/
def characters : List (Char × Nat) :=
  let b := t.characterTable
  let found := (List.range (min (nat b 2 2) (b.size / 8))).flatMap fun k =>
    let i := 4 + 8 * k
    let table := b.extract (nat b (i + 4) 4) b.size
    if isByNumber (nat b i 2) (nat b (i + 2) 2) (nat table 0 2) then
      (t.tableCharacters? table).getD []
    else []
  found.filterMap fun (c, n) => if c.isValidChar then some (Char.ofNat c, n) else none

/-! ## Moves -/

/-- How far the second glyph of a pair is moved, for pairs in the first table. -/
def moves : List ((Nat × Nat) × Int) :=
  let b := t.moveTable
  if nat b 0 2 = 0 ∧ nat b 2 2 ≠ 0 ∧ get b 8 = 0 then
    (List.range (min (nat b 10 2) (b.size / 6))).map fun k =>
      let i := 18 + 6 * k
      ((nat b i 2, nat b (i + 2) 2), int b (i + 4) 2)
  else []

end Tables

/-- The typeface of a file. -/
def read? (file : ByteArray) : Option Typeface := do
  let t ← Tables.read? file
  let characters := t.characters
  let named (n : Nat) : List Char :=
    characters.filterMap fun (c, m) => if m = n then some c else none
  let face : Typeface := {
    square := t.square
    ascent := t.ascent
    descent := t.descent
    lineGap := t.lineGap
    fallback := t.glyph 0
    glyphs := characters.map fun (c, n) => (c, t.glyph n)
    pairs := t.moves.flatMap fun ((m, n), units) =>
      (named m).flatMap fun c => (named n).map fun d => ((c, d), units) }
  if face.isSound then some face else none

end TrueType

end CanvasScript.Picture
