import CanvasScript.Proofs.Canvas.WellFormed
import CanvasScript.Proofs.Picture.Png.Reading
import CanvasScript.Proofs.Picture.Size

/-!
# Files read back

What a file holds is kept as it was written until the end of a run, and a later run finds its octets
only. This makes no difference to the images that are read from it.

Results:
* `fits_of_renderImage`: the picture of a canvas fits into a file.
* `loadImage_ofOctets`: an image is loaded the same, whether a file is kept or found.
-/

namespace CanvasScript.Storage

open Picture Canvas

/-! ## Pictures -/

/-- An image that is no larger than a canvas fits into a file. -/
theorem fits_of_le {i : Image} (hw : i.width ≤ maxDimension) (hh : i.height ≤ maxDimension) :
    Png.Fits i := by
  unfold maxDimension at hw hh
  have hsize : i.height * (1 + 4 * i.width) ≤ 16384 * (1 + 4 * 16384) :=
    Nat.mul_le_mul hh (by omega)
  refine ⟨by omega, by omega, ?_⟩
  rw [Deflate.size_pack, Deflate.blockCount, Deflate.blockSize, Png.size_packedRows]
  omega

/-- The picture of a canvas fits into a file. -/
theorem fits_of_renderImage {fs : FileSystem} {c : Canvas} {i : Image} (hc : c.WellFormed)
    (h : renderImage fs c = .ok i) : Png.Fits i := by
  obtain ⟨hwidth, hheight⟩ := size_of_renderImage h
  refine fits_of_le ?_ ?_
  · rw [hwidth]
    exact hc.width.2
  · rw [hheight]
    exact hc.height.2

/-! ## Octets -/

namespace Content

theorem toUTF8_of_fromUTF8? {b : ByteArray} {s : String} (h : String.fromUTF8? b = some s) :
    s.toUTF8 = b := by
  unfold String.fromUTF8? at h
  split at h <;> cases h
  rfl

/-- Octets are read as an image whether or not they are a text. -/
theorem loadImage_octets (b : ByteArray) : (ofOctets b).loadImage = Png.read b := by
  unfold ofOctets
  split
  · rename_i s hs
    exact congrArg Png.read (toUTF8_of_fromUTF8? hs)
  · rfl

theorem loadImage_image (i : Image) : (Content.image i).loadImage =
    if i.width = 0 ∨ i.height = 0 then .error .noPixels
    else if Png.roomLimit < i.width * i.height * 4 then .error .tooLarge
    else .ok i := by
  have hpixels : i.pixels.isEmpty = true ↔ i.width = 0 ∨ i.height = 0 := by
    rw [Array.isEmpty_iff_size_eq_zero, i.complete, Nat.mul_eq_zero]
  unfold loadImage readImage
  dsimp only
  by_cases hempty : i.width = 0 ∨ i.height = 0
  · have hzero : i.width * i.height = 0 := Nat.mul_eq_zero.2 hempty
    rw [if_pos hempty, if_pos (hpixels.2 hempty), hzero, if_neg (by decide)]
  · rw [if_neg hempty, if_neg (mt hpixels.1 hempty)]

/-- **An image is loaded the same**, whether what a file holds is still kept as it was written or
its octets have been found. -/
theorem loadImage_ofOctets {c : Content} {b : ByteArray} (h : c.octets? = some b)
    (hfits : ∀ i, c = .image i → Png.Fits i) : (ofOctets b).loadImage = c.loadImage := by
  rw [loadImage_octets]
  cases c with
  | text s =>
    cases h
    rfl
  | image i =>
    cases h
    rw [Png.read_write (hfits i rfl), loadImage_image]
  | font t => cases h
  | bytes b' =>
    cases h
    rfl

end Content

end CanvasScript.Storage
