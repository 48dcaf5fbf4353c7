import CanvasScript.Picture.Image
import CanvasScript.Picture.Png.Header

/-!
# Rows of image files

* `nearest`, `expected`, `unfilter`: octets of a row from their differences to those around them.
* `Look`: the header, and what the parts behind it say of colours. `Look.pixel`: a pixel of a row.
* `Pass`: a part of the pixels of an image; an interlaced image has seven of them.
* `Look.badRow?`: what is wrong with the rows that are there so far.
* `Look.image`: the image of all rows.
-/

namespace CanvasScript.Picture.Png

open Octets

/-! ## Filters -/

/-- The one of three neighbours that is nearest to `left + up - corner`. -/
def nearest (left up corner : Nat) : Nat :=
  let guess : Int := (left : Int) + up - corner
  let toLeft := (guess - left).natAbs
  let toUp := (guess - up).natAbs
  let toCorner := (guess - corner).natAbs
  if toLeft ≤ toUp ∧ toLeft ≤ toCorner then left
  else if toUp ≤ toCorner then up
  else corner

/-- What a filter takes an octet to be, from the octets to its left, above, and left above. -/
def expected (filter left up corner : Nat) : Nat :=
  match filter with
  | 1 => left
  | 2 => up
  | 3 => (left + up) / 2
  | 4 => nearest left up corner
  | _ => 0

/-- A row without its filter, from the row above it. -/
def unfilter (unit filter : Nat) (above row : ByteArray) : ByteArray :=
  (List.range row.size).foldl
    (fun out i =>
      let before (r : ByteArray) := if unit ≤ i then get r (i - unit) else 0
      out.push (UInt8.ofNat
        ((get row i + expected filter (before out) (get above i) (before above)) % 256)))
    ByteArray.empty

/-- Rows of one size without their filters, from a place on. -/
def unfilterRows (unit size : Nat) (data : ByteArray) :
    Nat → Nat → ByteArray → List ByteArray
  | 0, _, _ => []
  | n + 1, i, above =>
    let row := unfilter unit (get data i) above (slice data (i + 1) size)
    row :: unfilterRows unit size data n (i + 1 + size) row

/-! ## Pixels -/

/-- How the pixels of an image are written, and what they mean. -/
structure Look where
  header : Header
  /-- The channels of the colours of the palette. -/
  palette? : Option ByteArray := none
  /-- The channels of the colour that is transparent, or, if there is a palette, the alphas of its
  first colours. -/
  clear? : Option (List Nat) := none

/-- The `k`-th number of `depth` bits in a row. -/
def sample (depth : Nat) (row : ByteArray) (k : Nat) : Nat :=
  if depth = 16 then nat row (2 * k) 2
  else if depth = 8 then get row k
  else
    let i := k * depth
    (get row (i / 8) >>> (8 - depth - i % 8)) % Nat.pow 2 depth

/-- A number of `depth` bits as one of eight bits. -/
def toOctet (depth n : Nat) : UInt8 :=
  UInt8.ofNat
    (if depth = 16 then (n + 128) / 257 else n * 255 / (Nat.pow 2 depth - 1))

namespace Look

variable (l : Look)

/-- The alphas of the first colours of the palette; there are none if there are too many. -/
def alphas (palette : ByteArray) : List Nat :=
  match l.clear? with
  | some alphas => if 3 * alphas.length ≤ palette.size then alphas else []
  | none => []

/-- A colour of the palette. Beyond its end there is black. -/
def colour (n : Nat) : Colour :=
  let palette := l.palette?.getD ByteArray.empty
  if 3 * n + 3 ≤ palette.size then
    let octet (k : Nat) := UInt8.ofNat (get palette (3 * n + k))
    ⟨octet 0, octet 1, octet 2, UInt8.ofNat ((l.alphas palette)[n]?.getD 255)⟩
  else ⟨0, 0, 0, 255⟩

/-- The pixel in a column of a row. -/
def pixel (row : ByteArray) (x : Nat) : Colour :=
  let h := l.header
  let raw (k : Nat) := sample h.depth row (x * h.channels.count + k)
  let octet (k : Nat) := toOctet h.depth (raw k)
  let alpha (n : Nat) : UInt8 := if l.clear? == some ((List.range n).map raw) then 0 else 255
  match h.channels with
  | .grey => ⟨octet 0, octet 0, octet 0, alpha 1⟩
  | .colours => ⟨octet 0, octet 1, octet 2, alpha 3⟩
  | .place => l.colour (raw 0)
  | .greyAlpha => ⟨octet 0, octet 0, octet 0, octet 1⟩
  | .coloursAlpha => ⟨octet 0, octet 1, octet 2, octet 3⟩

/-- The octets of a pixel when it is no longer packed. -/
def pixelSize : Nat :=
  let h := l.header
  let alpha := if l.clear?.isSome then 1 else 0
  match h.channels with
  | .place => 3 + alpha
  | .grey | .colours => (h.channels.count + alpha) * ((h.depth + 7) / 8)
  | .greyAlpha | .coloursAlpha => h.channels.count * (h.depth / 8)

end Look

/-! ## Passes -/

/-- A part of the pixels: those in every `dx`-th column from `x` on, in every `dy`-th row from `y`
on. -/
structure Pass where
  x : Nat
  y : Nat
  dx : Nat
  dy : Nat

namespace Pass

/-- The passes of an image, one after the other. -/
def all (interlaced : Bool) : List Pass :=
  if interlaced then
    [⟨0, 0, 8, 8⟩, ⟨4, 0, 8, 8⟩, ⟨0, 4, 4, 8⟩, ⟨2, 0, 4, 4⟩, ⟨0, 2, 2, 4⟩, ⟨1, 0, 2, 2⟩,
      ⟨0, 1, 1, 2⟩]
  else [⟨0, 0, 1, 1⟩]

variable (p : Pass)

/-- The number of columns of a pass. -/
def columns (h : Header) : Nat := (h.width - p.x + p.dx - 1) / p.dx

/-- The number of rows of a pass, none if it has no columns. -/
def rows (h : Header) : Nat :=
  if p.columns h = 0 then 0 else (h.height - p.y + p.dy - 1) / p.dy

/-- The octets of a pass. -/
def size (h : Header) : Nat := p.rows h * (1 + h.rowSize (p.columns h))

/-- The number of rows of a pass that are wholly within data of some size, if the pass begins at
a place in it. -/
def rowsWithin (h : Header) (size start : Nat) : Nat :=
  min (p.rows h) ((size - start) / (1 + h.rowSize (p.columns h)))

/-- The pixels of a pass put into an image. -/
def paint (l : Look) (data : ByteArray) (start : Nat) (image : Image) : Image :=
  let h := l.header
  let size := h.rowSize (p.columns h)
  let lines := unfilterRows h.unit size data (p.rows h) start ByteArray.empty
  lines.zipIdx.foldl
    (fun image (row, j) =>
      (List.range (p.columns h)).foldl
        (fun image i => image.set (p.x + i * p.dx) (p.y + j * p.dy) (l.pixel row i)) image)
    image

end Pass

namespace Look

variable (l : Look)

/-- The passes of the image. -/
def passes : List Pass := Pass.all l.header.interlaced

/-- The octets of all rows. -/
def size : Nat := l.passes.foldl (fun n p => n + p.size l.header) 0

/-- What is wrong with a row that begins with the number of a filter. -/
def badFilter? (filter : Nat) : Option Fault :=
  if 4 < filter then some (.badFilter filter)
  else if l.header.channels = .place ∧ l.palette? = none then some .noPalette
  else none

/-- What is wrong with the first row that is wrong, of those that are wholly there. -/
def badRowFrom? (data : ByteArray) : List Pass → Nat → Option Fault
  | [], _ => none
  | p :: ps, start =>
    let rowSize := 1 + l.header.rowSize (p.columns l.header)
    match (List.range (p.rowsWithin l.header data.size start)).findSome? fun k =>
        l.badFilter? (get data (start + k * rowSize)) with
    | some f => some f
    | none => badRowFrom? data ps (start + p.size l.header)

/-- What is wrong with the first row that is wrong, of those that are wholly there. -/
def badRow? (data : ByteArray) : Option Fault :=
  l.badRowFrom? data l.passes 0

/-- Passes put into an image one after the other. -/
def paintPasses (data : ByteArray) : List Pass → Nat → Image → Image
  | [], _, image => image
  | p :: ps, start, image =>
    paintPasses data ps (start + p.size l.header) (p.paint l data start image)

/-- The image of all rows. -/
def image (data : ByteArray) : Image :=
  l.paintPasses data l.passes 0 (.blank l.header.width l.header.height)

end Look

end CanvasScript.Picture.Png
