import CanvasScript.Picture.Image
import CanvasScript.Picture.Region

/-!
# Painting pixels

* `blend`: a colour laid over a pixel, both with straight opacity.
* `paint`: a colour laid over every pixel of a region whose centre is at a distance that is
  covered. Pixels for which there is no distance are masked.
-/

namespace CanvasScript.Picture

open Number

/-- A byte as a single. -/
def ofByte (b : UInt8) : Float32 := Float32.ofNat b.toNat

/-- The nearest byte, half a unit going away from zero. -/
def toByte (x : Float32) : UInt8 :=
  (Single.clamp x.round 0 255).toUInt8

/-- The colour `ink` laid over the pixel `under`, its opacity scaled by `coverage`. -/
def blend (under ink : Colour) (coverage : Float32) : Colour :=
  let a := ofByte ink.alpha / 255 * Single.clamp coverage 0 1
  if a ≤ 0 then under
  else
    let b := ofByte under.alpha / 255
    let out := a + b * (1 - a)
    let mix (s d : UInt8) : UInt8 := toByte ((ofByte s * a + ofByte d * b * (1 - a)) / out)
    ⟨mix ink.red under.red, mix ink.green under.green, mix ink.blue under.blue,
      toByte (out * 255)⟩

/-- One pixel painted, if its centre is at a distance that is covered. -/
def paintPixel (colour : Colour) (distance? : Float32 → Float32 → Option Float32)
    (covers : Float32 → Bool) (image : Image) (pixel : Nat × Nat) : Image :=
  let (px, py) := centre pixel.1 pixel.2
  match distance? px py with
  | some d => if covers d then image.modify pixel.1 pixel.2 (blend · colour 1) else image
  | none => image

/-- The pixels of a region painted where the distance of their centre is covered. A transparent
colour leaves the image as it is. -/
def paint (image : Image) (region : Region) (colour : Colour)
    (distance? : Float32 → Float32 → Option Float32) (covers : Float32 → Bool) : Image :=
  if colour.isTransparent then image
  else region.pixels.foldl (paintPixel colour distance? covers) image

end CanvasScript.Picture
