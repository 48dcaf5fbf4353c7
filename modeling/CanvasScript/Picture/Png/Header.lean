import CanvasScript.Picture.Deflate
import CanvasScript.Picture.Png.Part

/-!
# What image files say of their pixels

* `Channels`: what the channels of a pixel are.
* `Fault`: why a file has no image; `Fault.message` is the wording.
* `Header`: the size of an image, and how its pixels are written. `Header.read`: from the part that
  holds it, the first thing that is wrong being told.
-/

namespace CanvasScript.Picture.Png

open Octets

/-! ## Channels -/

/-- What the channels of a pixel are. -/
inductive Channels where
  | grey
  | colours
  /-- A place in the palette. -/
  | place
  | greyAlpha
  | coloursAlpha
deriving DecidableEq, Repr

namespace Channels

/-- The channels that a number in a file stands for. -/
def ofNat? : Nat → Option Channels
  | 0 => some grey
  | 2 => some colours
  | 3 => some place
  | 4 => some greyAlpha
  | 6 => some coloursAlpha
  | _ => none

/-- How many channels there are. -/
def count : Channels → Nat
  | grey | place => 1
  | greyAlpha => 2
  | colours => 3
  | coloursAlpha => 4

/-- The numbers of bits that a channel may have. -/
def depths : Channels → List Nat
  | grey => [1, 2, 4, 8, 16]
  | place => [1, 2, 4, 8]
  | colours | greyAlpha | coloursAlpha => [8, 16]

/-- The channels as messages name them. -/
def name : Channels → String
  | grey => "Grayscale"
  | colours => "Rgb"
  | place => "Indexed"
  | greyAlpha => "GrayscaleAlpha"
  | coloursAlpha => "Rgba"

end Channels

/-- The name of a number of bits that there can be. -/
def depthName? : Nat → Option String
  | 1 => some "One"
  | 2 => some "Two"
  | 4 => some "Four"
  | 8 => some "Eight"
  | 16 => some "Sixteen"
  | _ => none

/-! ## Faults -/

/-- Why a file has no image. -/
inductive Fault where
  /-- The file ends too soon. -/
  | cutOff
  /-- The image would need too much room. -/
  | tooLarge
  | badSignature
  /-- The check of a part is not what it should be. -/
  | badCheck (found right : Nat) (kind : Kind)
  | beforeHeader (kind : Kind)
  | repeated (kind : Kind)
  | badSize (kind : Kind)
  | unknownKind (kind : Kind)
  /-- Rows where none may be. -/
  | strayRows (kind : Kind)
  | noRows
  /-- There are too few octets for all rows. -/
  | fewRows
  | noPalette
  | noPixels
  | badDepth (n : Nat)
  | badChannels (n : Nat)
  | badCombination (channels : Channels) (depth : String)
  | badPacking (n : Nat)
  | badFilter (n : Nat)
  | badInterlacing (n : Nat)
  /-- The steps of an animation are not in order. -/
  | badOrder (expected found : Nat)
  /-- The rows of a step of an animation have no number. -/
  | noNumber
  | badDisposal (n : Nat)
  | badBlending (n : Nat)
  /-- A step of an animation is not where the image is. -/
  | badFrame
  | corrupt (h : Deflate.Halt)
deriving DecidableEq, Repr

/-- What is wrong with the format of a file. -/
def Fault.detail : Fault → String
  | cutOff | tooLarge => ""
  | badSignature => "Invalid PNG signature."
  | badCheck found right kind =>
    let hex (n : Nat) : String := "0x" ++ String.ofList (Text.hexDigits n)
    "CRC error: expected " ++ hex found ++ " have " ++ hex right ++ " while decoding " ++
      kind.describe ++ " chunk."
  | beforeHeader kind => kind.describe ++ " chunk appeared before IHDR chunk"
  | repeated kind => "Chunk " ++ kind.describe ++ " is duplicated."
  | badSize kind => "Chunk length wrong: " ++ kind.describe
  | unknownKind kind => "Unrecognized critical chunk: " ++ kind.describe
  | strayRows kind => "Unexpected restart of " ++ kind.describe ++ " chunk sequence"
  | noRows => "IDAT or fdAT chunk is missing."
  | fewRows => "IDAT or fDAT chunk does not have enough data for image."
  | noPalette => "Missing palette of indexed image."
  | noPixels => "Invalid image dimensions"
  | badDepth n => "Invalid dispose operation " ++ toString n ++ "."
  | badChannels n => "Invalid color type " ++ toString n ++ "."
  | badCombination channels depth =>
    "Invalid color/depth combination in header: " ++ channels.name ++ "/" ++ depth
  | badPacking n => "Unknown compression method " ++ toString n ++ "."
  | badFilter n => "Unknown filter method " ++ toString n ++ "."
  | badInterlacing n => "Unknown interlace method " ++ toString n ++ "."
  | badOrder expected found =>
    "Sequence is not in order, expected #" ++ toString expected ++ " got #" ++ toString found ++ "."
  | noNumber => "fdAT chunk shorter than 4 bytes"
  | badDisposal n => "Invalid dispose op " ++ toString n ++ "."
  | badBlending n => "Invalid blend op " ++ toString n ++ "."
  | badFrame => "Sub frame is out-of-bounds."
  | corrupt h => "Corrupt deflate stream. " ++ h.name

/-- The wording of a fault. -/
def Fault.message : Fault → String
  | cutOff => "unexpected end of file"
  | tooLarge => "Memory limit exceeded"
  | f => "Format error decoding Png: " ++ f.detail

/-! ## Headers -/

/-- The size of an image, and how its pixels are written. -/
structure Header where
  width : Nat
  height : Nat
  /-- Bits in a channel. -/
  depth : Nat
  channels : Channels
  interlaced : Bool

/-- The number in some octets of a part. -/
def field (kind : Kind) (data : ByteArray) (i size : Nat) : Except Fault Nat :=
  if i + size ≤ data.size then .ok (nat data i size) else .error (.badSize kind)

/-- A number that says that something is done in the only known way. -/
def requireZero (n : Nat) (f : Nat → Fault) : Except Fault Unit :=
  if n = 0 then .ok () else .error (f n)

namespace Header

/-- The header in a part of a file. -/
def read (data : ByteArray) : Except Fault Header := do
  let field := field .header data
  let width ← field 0 4
  let height ← field 4 4
  if width = 0 ∨ height = 0 then throw .noPixels
  let depth ← field 8 1
  let some name := depthName? depth | throw (.badDepth depth)
  let number ← field 9 1
  let some channels := Channels.ofNat? number | throw (.badChannels number)
  if depth ∉ channels.depths then throw (.badCombination channels name)
  requireZero (← field 10 1) .badPacking
  requireZero (← field 11 1) .badFilter
  let interlacing ← field 12 1
  if 1 < interlacing then throw (.badInterlacing interlacing)
  if data.size ≠ 13 then throw (.badSize .header)
  return { width, height, depth, channels, interlaced := interlacing == 1 }

variable (h : Header)

/-- Bits in a pixel. -/
def pixelBits : Nat := h.channels.count * h.depth

/-- Octets in a row of some pixels. -/
def rowSize (width : Nat) : Nat := (width * h.pixelBits + 7) / 8

/-- How far back the octet to the left of an octet is. -/
def unit : Nat := max 1 (h.pixelBits / 8)

end Header

end CanvasScript.Picture.Png
