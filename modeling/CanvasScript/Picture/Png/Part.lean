import CanvasScript.Data.Octets
import CanvasScript.Text.Quoted

/-!
# Parts of image files

Files in the format of portable network graphics begin with a signature and consist of parts: the
size of a part, its kind, what it holds, and a check.

* `Kind`: the kind of a part, four letters whose cases say how it is to be treated.
  `Kind.isCritical`: a reader has to know the kind. `Kind.describe`: how messages show it.
* `part`: the octets of a part.
* `Part`: a part of a file, and where it is. `Part.isSound?`: the check agrees.
-/

namespace CanvasScript.Picture.Png

open Octets

/-- The octets that every file begins with. -/
def signature : ByteArray :=
  ByteArray.mk #[0x89, 0x50, 0x4e, 0x47, 0x0d, 0x0a, 0x1a, 0x0a]

/-! ## Kinds -/

/-- The kind of a part: four letters, as the number that their octets make. -/
structure Kind where
  code : Nat
deriving DecidableEq, Repr

namespace Kind

/-- The kind with a name. -/
def named (name : String) : Kind := ⟨nat name.toUTF8 0 4⟩

def header : Kind := named "IHDR"

def palette : Kind := named "PLTE"

def rows : Kind := named "IDAT"

def ending : Kind := named "IEND"

/-- What is transparent. -/
def clearing : Kind := named "tRNS"

/-- How a step of an animation is shown. -/
def frame : Kind := named "fcTL"

/-- The rows of a step of an animation. -/
def frameRows : Kind := named "fdAT"

variable (k : Kind)

/-- The `n`-th letter of the name is a small one. -/
def isSmall (n : Nat) : Bool := k.code.testBit (29 - 8 * n)

/-- A reader has to know the kind. -/
def isCritical : Bool := !k.isSmall 0

/-- The letters of the name. -/
def letters : List Char :=
  (List.range 4).map fun n => Char.ofNat (get (ofNat k.code 4) n)

/-- A letter as messages show it. -/
def showLetter (c : Char) : List Char :=
  if c = '\'' then ['\\', c] else Text.quoteChar c

/-- The kind as messages show it. -/
def describe : String :=
  let mark (b : Bool) : String := if b then "true" else "false"
  "ChunkType \x7b type: " ++ String.ofList (k.letters.flatMap showLetter) ++
    ", critical: " ++ mark k.isCritical ++ ", private: " ++ mark (k.isSmall 1) ++
    ", reserved: " ++ mark (k.isSmall 2) ++ ", safecopy: " ++ mark (k.isSmall 3) ++ " \x7d"

end Kind

/-! ## Parts -/

/-- The octets of a part. -/
def part (kind : Kind) (data : ByteArray) : ByteArray :=
  let body := ofNat kind.code 4 ++ data
  ofNat data.size 4 ++ body ++ ofNat (cycle body).toNat 4

/-- A part of a file: its kind, and the place and the size of what it holds. -/
structure Part where
  kind : Kind
  start : Nat
  size : Nat

namespace Part

/-- The part at a place, if its size and its kind are within the file. -/
def at? (file : ByteArray) (i : Nat) : Option Part :=
  if i + 8 ≤ file.size then some ⟨⟨nat file (i + 4) 4⟩, i + 8, nat file i 4⟩ else none

variable (file : ByteArray) (p : Part)

/-- What the part holds, as far as it is within the file. -/
def data : ByteArray := slice file p.start p.size

/-- The place behind what the part holds, where the check is. -/
def stop : Nat := p.start + p.size

/-- The check in the file. -/
def check : Nat := nat file p.stop 4

/-- The check that there should be. -/
def rightCheck : Nat := (cycle (slice file (p.start - 4) (p.size + 4))).toNat

/-- The check is what it should be, if it is within the file. -/
def isSound? : Option Bool :=
  if p.stop + 4 ≤ file.size then some (p.check file == p.rightCheck file) else none

end Part

end CanvasScript.Picture.Png
