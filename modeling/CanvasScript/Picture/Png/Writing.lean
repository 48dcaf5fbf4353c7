import CanvasScript.Picture.Deflate
import CanvasScript.Picture.Image
import CanvasScript.Picture.Png.Part

/-!
# Writing image files

* `write`: the file of an image, with four channels of eight bits.
-/

namespace CanvasScript.Picture.Png

open Octets

/-- The four channels of a pixel. -/
def pushPixel (out : ByteArray) (c : Colour) : ByteArray :=
  (((out.push c.red).push c.green).push c.blue).push c.alpha

/-- The rows of an image, each behind the number of its filter, which leaves it as it is. -/
def packedRows (image : Image) : ByteArray :=
  (List.range image.height).foldl
    (fun out y =>
      image.pixels.foldl pushPixel (out.push 0) (y * image.width) ((y + 1) * image.width))
    ByteArray.empty

/-- The file of an image. -/
def write (image : Image) : ByteArray :=
  signature ++
    part .header
      (ofNat image.width 4 ++ ofNat image.height 4 ++ ByteArray.mk #[8, 6, 0, 0, 0]) ++
    part .rows (Deflate.pack (packedRows image)) ++
    part .ending ByteArray.empty

end CanvasScript.Picture.Png
