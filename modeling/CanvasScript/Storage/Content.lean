import CanvasScript.Picture.Png.Reading
import CanvasScript.Picture.Png.Writing
import CanvasScript.Picture.TrueType

/-!
# What files hold

* `Content`: a text, an image, a typeface, or octets that are not yet known to be any of these.
* `Content.ofOctets`, `Content.octets?`: from and to the octets of a file.
* `Content.readImage`, `Content.typeface?`: an image and a typeface, read from octets if necessary.
* `Content.loadImage`: an image that is not too large to be read back.

Images in other formats than that of portable network graphics are not modelled.
-/

namespace CanvasScript.Storage

open Picture

/-- What a file holds. -/
inductive Content where
  | text (s : String)
  | image (i : Image)
  | font (t : Typeface)
  /-- Octets that are no text. -/
  | bytes (b : ByteArray)
deriving Inhabited

namespace Content

/-- The content of a file with some octets. -/
def ofOctets (b : ByteArray) : Content :=
  match String.fromUTF8? b with
  | some s => .text s
  | none => .bytes b

/-- The octets of a file. A typeface has none to be written. -/
def octets? : Content → Option ByteArray
  | text s => some s.toUTF8
  | image i => some (Png.write i)
  | font _ => none
  | bytes b => some b

/-- The two are the same. Typefaces are never told apart, since none is ever written. -/
def same : Content → Content → Bool
  | text s, text t => s == t
  | image i, image k => i.width == k.width && i.height == k.height && i.pixels == k.pixels
  | font _, font _ => true
  | bytes x, bytes y => x.data == y.data
  | _, _ => false

/-! ## Images -/

/-- The image in a file, or why there is none. A file of an image has at least one pixel. -/
def readImage : Content → Except Png.Fault Image
  | image i => if i.pixels.isEmpty then .error .noPixels else .ok i
  | text s => Png.read s.toUTF8
  | bytes b => Png.read b
  | font _ => .error .badSignature

/-- The image that is read from a file, or why there is none. An image that has been written is
read from its octets, which may not need too much room. -/
def loadImage : Content → Except Png.Fault Image
  | image i =>
    if Png.roomLimit < i.width * i.height * 4 then .error .tooLarge else (image i).readImage
  | c => c.readImage

/-! ## Typefaces -/

/-- The typeface in a file. -/
def typeface? : Content → Option Typeface
  | font t => if t.isSound then some t else none
  | text s => TrueType.read? s.toUTF8
  | bytes b => TrueType.read? b
  | image _ => none

end Content

end CanvasScript.Storage
