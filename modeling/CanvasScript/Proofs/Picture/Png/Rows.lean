import CanvasScript.Picture.Png.Rows
import CanvasScript.Picture.Png.Writing
import CanvasScript.Proofs.Data.Octets
import CanvasScript.Proofs.Picture.Painting
import Mathlib.Data.List.Basic

/-!
# Rows of image files

An image is written row by row, each row behind the number of a filter that leaves it as it is. Such
rows are found again, and their pixels make the image.

* `line`: the octets of some pixels. `filtered`: rows behind the numbers of their filters.
* `plainLook`: four channels of eight bits.
* `AgreesUpTo`: an image has the pixels of another one up to a place.

Results:
* `packedRows_eq`: an image is written as its rows.
* `unfilterRows_filtered`: the rows come out as they are.
* `badRow?_packedRows`: nothing is wrong with them.
* `image_packedRows`: they make the image that has been written.
-/

namespace CanvasScript.Picture.Png

open Octets

/-! ## Pixels -/

/-- The octets of some pixels, one after the other. -/
def line (cs : List Colour) : ByteArray :=
  cs.foldl pushPixel ByteArray.empty

theorem pushPixel_eq (out : ByteArray) (c : Colour) :
    pushPixel out c = out ++ ByteArray.mk #[c.red, c.green, c.blue, c.alpha] := by
  simp only [pushPixel, push_eq_append, ByteArray.append_assoc]
  rfl

theorem foldl_pushPixel (out : ByteArray) (cs : List Colour) :
    cs.foldl pushPixel out = out ++ line cs := by
  induction cs generalizing out with
  | nil => exact ByteArray.append_empty.symm
  | cons c cs ih =>
    have hline : line (c :: cs) = cs.foldl pushPixel (pushPixel ByteArray.empty c) := rfl
    rw [List.foldl_cons, ih, hline, ih, pushPixel_eq, pushPixel_eq, ByteArray.empty_append,
      ByteArray.append_assoc]

theorem line_cons (c : Colour) (cs : List Colour) :
    line (c :: cs) = ByteArray.mk #[c.red, c.green, c.blue, c.alpha] ++ line cs := by
  rw [line, List.foldl_cons, foldl_pushPixel, pushPixel_eq, ByteArray.empty_append]

theorem size_line (cs : List Colour) : (line cs).size = 4 * cs.length := by
  induction cs with
  | nil => rfl
  | cons c cs ih =>
    rw [line_cons, ByteArray.size_append, ih, List.length_cons, Nat.mul_succ, Nat.add_comm]
    rfl

/-- The channels of a pixel are where the pixel is. -/
theorem get_line {cs : List Colour} {x : Nat} {c : Colour} (h : cs[x]? = some c) (k : Nat)
    (hk : k < 4) : get (line cs) (4 * x + k) =
      get (ByteArray.mk #[c.red, c.green, c.blue, c.alpha]) k := by
  induction cs generalizing x with
  | nil => cases h
  | cons d cs ih =>
    rw [line_cons]
    cases x with
    | zero =>
      cases h
      rw [Nat.mul_zero, Nat.zero_add, get_append_left hk]
    | succ x =>
      have hplace : 4 * (x + 1) + k =
          (ByteArray.mk #[d.red, d.green, d.blue, d.alpha]).size + (4 * x + k) := by
        show _ = 4 + (4 * x + k)
        omega
      rw [hplace, get_append_right]
      exact ih h

/-! ## Rows -/

/-- Rows, each behind the number of the filter that leaves it as it is. -/
def filtered : List ByteArray → ByteArray
  | [] => ByteArray.empty
  | row :: rows => ByteArray.mk #[0] ++ row ++ filtered rows

theorem size_filtered {size : Nat} {rows : List ByteArray} (h : ∀ row ∈ rows, row.size = size) :
    (filtered rows).size = rows.length * (1 + size) := by
  induction rows with
  | nil => simp [filtered]
  | cons row rows ih =>
    obtain ⟨hrow, hrows⟩ := List.forall_mem_cons.1 h
    rw [filtered, ByteArray.size_append, ByteArray.size_append, ih hrows, hrow, List.length_cons,
      Nat.succ_mul, Nat.add_comm]
    rfl

/-- The number in front of a row. -/
theorem get_filtered {size : Nat} {rows : List ByteArray} (h : ∀ row ∈ rows, row.size = size)
    {k : Nat} (hk : k < rows.length) : get (filtered rows) (k * (1 + size)) = 0 := by
  induction rows generalizing k with
  | nil => cases hk
  | cons row rows ih =>
    obtain ⟨hrow, hrows⟩ := List.forall_mem_cons.1 h
    rw [filtered]
    cases k with
    | zero =>
      rw [Nat.zero_mul, ByteArray.append_assoc, get_append_left (by decide)]
      rfl
    | succ k =>
      have hplace : (k + 1) * (1 + size) = (ByteArray.mk #[0] ++ row).size + k * (1 + size) := by
        rw [ByteArray.size_append, hrow, Nat.succ_mul, Nat.add_comm]
        rfl
      rw [hplace, get_append_right]
      exact ih hrows (by simpa using hk)

theorem push_extract {row : ByteArray} {n : Nat} (h : n < row.size) :
    (row.extract 0 n).push (UInt8.ofNat (get row n % 256)) = row.extract 0 (n + 1) := by
  have hsplit := ByteArray.extract_eq_extract_append_extract (a := row) n (Nat.zero_le n)
    (Nat.le_succ n)
  have hoctet : UInt8.ofNat (get row n % 256) = row[n] := by
    rw [get_of_lt h, Nat.mod_eq_of_lt (UInt8.toNat_lt _), UInt8.ofNat_toNat]
  rw [hsplit, ByteArray.extract_add_one h, hoctet, ByteArray.append_toByteArray_singleton]

/-- A filter that takes every octet to be nothing leaves the row as it is. -/
theorem unfilter_zero (unit : Nat) (above row : ByteArray) : unfilter unit 0 above row = row := by
  have hfold : ∀ n ≤ row.size, (List.range n).foldl
      (fun out i => out.push (UInt8.ofNat ((get row i + 0) % 256))) ByteArray.empty =
        row.extract 0 n := by
    intro n hn
    induction n with
    | zero => exact ByteArray.extract_same.symm
    | succ n ih =>
      rw [List.range_succ, List.foldl_append, ih (by omega)]
      exact push_extract hn
  exact (hfold row.size (Nat.le_refl _)).trans ByteArray.extract_zero_size

/-- Rows that are left as they are come out as they are. -/
theorem unfilterRows_filtered {unit size : Nat} {rows : List ByteArray} {data before : ByteArray}
    (hdata : data = before ++ filtered rows) (h : ∀ row ∈ rows, row.size = size)
    (above : ByteArray) : unfilterRows unit size data rows.length before.size above = rows := by
  induction rows generalizing before above with
  | nil => rfl
  | cons row rows ih =>
    obtain ⟨hrow, hrows⟩ := List.forall_mem_cons.1 h
    have hmark : (before ++ ByteArray.mk #[0]).size = before.size + 1 := ByteArray.size_append
    have hdata' : data = before ++ ByteArray.mk #[0] ++ row ++ filtered rows := by
      rw [hdata, filtered]
      simp only [ByteArray.append_assoc]
    have hfilter : get data before.size = 0 := by
      have hplace := get_append_right before (ByteArray.mk #[0] ++ (row ++ filtered rows)) 0
      rw [hdata', ByteArray.append_assoc, ByteArray.append_assoc]
      exact hplace
    have hslice : slice data (before.size + 1) size = row := by
      rw [← hmark, ← hrow, hdata', slice_middle]
    have hnext : before.size + 1 + size = (before ++ ByteArray.mk #[0] ++ row).size := by
      rw [ByteArray.size_append, hmark, hrow]
    rw [List.length_cons, unfilterRows, hfilter, hslice, unfilter_zero, hnext]
    exact congrArg (row :: ·) (ih hdata' hrows row)

/-! ## The rows of an image -/

/-- The pixels of a row of an image. -/
def rowPixels (image : Image) (y : Nat) : List Colour :=
  (image.pixels.extract (y * image.width) ((y + 1) * image.width)).toList

/-- The rows of an image from the `y`-th on, `n` of them. -/
def rowsFrom (image : Image) (y n : Nat) : List ByteArray :=
  (List.range' y n).map fun k => line (rowPixels image k)

theorem packedRows_eq (image : Image) :
    packedRows image = filtered (rowsFrom image 0 image.height) := by
  have hfold : ∀ y n (out : ByteArray), (List.range' y n).foldl
      (fun out y =>
        image.pixels.foldl pushPixel (out.push 0) (y * image.width) ((y + 1) * image.width)) out =
      out ++ filtered (rowsFrom image y n) := by
    intro y n
    induction n generalizing y with
    | zero => exact fun out => ByteArray.append_empty.symm
    | succ n ih =>
      intro out
      have hrow : image.pixels.foldl pushPixel (out.push 0) (y * image.width)
          ((y + 1) * image.width) = out ++ ByteArray.mk #[0] ++ line (rowPixels image y) := by
        rw [Array.foldl_eq_foldl_extract, ← Array.foldl_toList, push_eq_append]
        exact foldl_pushPixel _ _
      have hcons : rowsFrom image y (n + 1) =
          line (rowPixels image y) :: rowsFrom image (y + 1) n := rfl
      rw [List.range'_succ, List.foldl_cons, hrow, ih, hcons, filtered]
      simp only [ByteArray.append_assoc]
  rw [packedRows, List.range_eq_range', hfold, ByteArray.empty_append]

theorem getElem?_rowPixels {image : Image} {x y : Nat} (h : image.Has x y) :
    (rowPixels image y)[x]? = some (image.get x y) := by
  have hlt := h.index_lt
  have hinside : y * image.width + x < (y + 1) * image.width := by
    rw [Nat.succ_mul]
    exact Nat.add_lt_add_left h.1 _
  rw [rowPixels, Array.getElem?_toList, Array.getElem?_extract, if_pos (by omega), Image.get,
    if_pos h.1]
  simp [hlt]

theorem length_rowPixels {image : Image} {y : Nat} (h : y < image.height) :
    (rowPixels image y).length = image.width := by
  have hle : (y + 1) * image.width ≤ image.pixels.size := by
    rw [image.complete, Nat.mul_comm image.width]
    exact Nat.mul_le_mul_right _ h
  rw [rowPixels, Array.length_toList, Array.size_extract, Nat.min_eq_left hle, Nat.succ_mul]
  omega

theorem length_rowsFrom (image : Image) (y n : Nat) : (rowsFrom image y n).length = n := by
  simp [rowsFrom]

theorem size_of_mem_rows (image : Image) :
    ∀ row ∈ rowsFrom image 0 image.height, row.size = 4 * image.width := by
  intro row hrow
  obtain ⟨k, hk, rfl⟩ := List.mem_map.1 hrow
  obtain ⟨-, hlt⟩ := List.mem_range'_1.1 hk
  rw [size_line, length_rowPixels (by omega)]

/-- Four channels of eight bits, without a palette. -/
def plainLook (image : Image) : Look where
  header := ⟨image.width, image.height, 8, .coloursAlpha, false⟩

theorem pixelSize_plain (image : Image) : (plainLook image).pixelSize = 4 := by
  simp [Look.pixelSize, plainLook, Channels.count]

theorem rowSize_plain (image : Image) (n : Nat) : (plainLook image).header.rowSize n = 4 * n := by
  show (n * (4 * 8) + 7) / 8 = 4 * n
  omega

/-- The only pass of an image that is not interlaced. -/
def wholePass : Pass := ⟨0, 0, 1, 1⟩

theorem columns_wholePass (h : Header) : wholePass.columns h = h.width := by
  simp [Pass.columns, wholePass]

theorem rows_wholePass {h : Header} (hw : 0 < h.width) : wholePass.rows h = h.height := by
  rw [Pass.rows, columns_wholePass, if_neg (Nat.ne_of_gt hw)]
  simp [wholePass]

theorem size_packedRows (image : Image) :
    (packedRows image).size = image.height * (1 + 4 * image.width) := by
  rw [packedRows_eq, size_filtered (size_of_mem_rows image), length_rowsFrom]

theorem size_plainLook {image : Image} (hw : 0 < image.width) :
    (plainLook image).size = (packedRows image).size := by
  have hsize : (plainLook image).size = 0 + wholePass.size (plainLook image).header := rfl
  rw [hsize, Nat.zero_add, Pass.size, columns_wholePass, rows_wholePass hw, rowSize_plain,
    size_packedRows]
  rfl

/-- Nothing is wrong with the rows. -/
theorem badRow?_packedRows {image : Image} (hw : 0 < image.width) :
    (plainLook image).badRow? (packedRows image) = none := by
  have hfilter : ∀ k ∈ List.range (wholePass.rowsWithin (plainLook image).header
        (packedRows image).size 0), (plainLook image).badFilter? (get (packedRows image)
      (0 + k * (1 + (plainLook image).header.rowSize
        (wholePass.columns (plainLook image).header)))) = none := by
    intro k hk
    have hrows : k < image.height := by
      have hlt := Nat.lt_of_lt_of_le (List.mem_range.1 hk) (Nat.min_le_left ..)
      rwa [rows_wholePass hw] at hlt
    have hzero := get_filtered (k := k) (size_of_mem_rows image) (by rwa [length_rowsFrom])
    rw [columns_wholePass, rowSize_plain, Nat.zero_add, packedRows_eq]
    exact congrArg (plainLook image).badFilter? hzero
  have hpasses : (plainLook image).passes = [wholePass] := rfl
  rw [Look.badRow?, hpasses, Look.badRowFrom?, List.findSome?_eq_none_iff.2 hfilter]
  rfl

/-- A pixel of a row has the channels that were written. -/
theorem pixel_line {image : Image} {x y : Nat} (h : image.Has x y) :
    (plainLook image).pixel (line (rowPixels image y)) x = image.get x y := by
  have hoctet : ∀ k < 4, toOctet 8 (sample 8 (line (rowPixels image y)) (x * 4 + k)) =
      UInt8.ofNat (get (ByteArray.mk #[(image.get x y).red, (image.get x y).green,
        (image.get x y).blue, (image.get x y).alpha]) k) := by
    intro k hk
    have hsample : ∀ j, sample 8 (line (rowPixels image y)) j = get (line (rowPixels image y)) j :=
      fun j => rfl
    rw [hsample, Nat.mul_comm, get_line (getElem?_rowPixels h) k hk]
    show UInt8.ofNat (_ * 255 / 255) = _
    rw [Nat.mul_div_cancel _ (by decide)]
  have hpixel : (plainLook image).pixel (line (rowPixels image y)) x =
      ⟨toOctet 8 (sample 8 (line (rowPixels image y)) (x * 4 + 0)),
        toOctet 8 (sample 8 (line (rowPixels image y)) (x * 4 + 1)),
        toOctet 8 (sample 8 (line (rowPixels image y)) (x * 4 + 2)),
        toOctet 8 (sample 8 (line (rowPixels image y)) (x * 4 + 3))⟩ := rfl
  rw [hpixel, hoctet 0 (by decide), hoctet 1 (by decide), hoctet 2 (by decide),
    hoctet 3 (by decide)]
  show (⟨UInt8.ofNat (UInt8.toNat _), UInt8.ofNat (UInt8.toNat _), UInt8.ofNat (UInt8.toNat _),
    UInt8.ofNat (UInt8.toNat _)⟩ : Colour) = _
  simp only [UInt8.ofNat_toNat]
  rfl

/-! ## Painting -/

/-- The image has the pixels of another one in the rows above `y` and in the first `x` columns of
that row. -/
structure AgreesUpTo (target : Image) (x y : Nat) (image : Image) : Prop where
  size : SameSize target image
  pixels : ∀ i j, target.Has i j → (j < y ∨ j = y ∧ i < x) → image.get i j = target.get i j

/-- Beyond the edges there is nothing to see. -/
theorem get_of_not_has {image : Image} {x y : Nat} (h : ¬ image.Has x y) :
    image.get x y = Colour.clear := by
  rw [Image.get]
  split
  · rename_i hx
    have hy : image.height ≤ y := Nat.le_of_not_lt fun hy => h ⟨hx, hy⟩
    have hle : image.pixels.size ≤ y * image.width + x := by
      rw [image.complete, Nat.mul_comm]
      exact Nat.le_trans (Nat.mul_le_mul_right _ hy) (Nat.le_add_right ..)
    simp [Array.getD, Nat.not_lt.2 hle]
  · rfl

namespace AgreesUpTo

variable {target image : Image} {x y : Nat}

theorem blank (target : Image) :
    AgreesUpTo target 0 0 (.blank target.width target.height) where
  size := ⟨rfl, rfl⟩
  pixels i j _ h := by omega

/-- One more pixel. -/
theorem set (h : AgreesUpTo target x y image) (hp : target.Has x y) :
    AgreesUpTo target (x + 1) y (image.set x y (target.get x y)) where
  size := h.size.trans (sameSize_modify image x y fun _ => target.get x y)
  pixels i j hij hbefore := by
    rw [Image.get_set (hp.of_sameSize h.size)]
    by_cases heq : i = x ∧ j = y
    · rw [if_pos heq, heq.1, heq.2]
    · rw [if_neg heq]
      exact h.pixels i j hij (by omega)

/-- One more row. -/
theorem row (h : AgreesUpTo target 0 y image) (hy : y < target.height) :
    AgreesUpTo target 0 (y + 1) ((List.range target.width).foldl
      (fun image i => image.set i y (target.get i y)) image) := by
  have hfold : ∀ n ≤ target.width, AgreesUpTo target n y ((List.range n).foldl
      (fun image i => image.set i y (target.get i y)) image) := by
    intro n hn
    induction n with
    | zero => exact h
    | succ n ih =>
      rw [List.range_succ, List.foldl_append]
      exact (ih (by omega)).set ⟨hn, hy⟩
  have hrow := hfold target.width (Nat.le_refl _)
  refine ⟨hrow.size, fun i j hij hbefore => hrow.pixels i j hij ?_⟩
  have hi := hij.1
  omega

theorem eq (h : AgreesUpTo target 0 target.height image) : image = target := by
  refine Image.ext_get h.size fun i j => ?_
  by_cases hij : target.Has i j
  · exact h.pixels i j hij (.inl hij.2)
  · have hij' : ¬ image.Has i j := by
      unfold Image.Has at hij ⊢
      rwa [h.size.width, h.size.height]
    rw [get_of_not_has hij, get_of_not_has hij']

end AgreesUpTo

/-- A row of pixels put into an image. -/
def paintRow (target : Image) (image : Image) (row : ByteArray) (y : Nat) : Image :=
  (List.range target.width).foldl (fun image i =>
    image.set (0 + i * 1) (0 + y * 1) ((plainLook target).pixel row i)) image

/-- Rows painted one after the other. -/
theorem agreesUpTo_rows {target image : Image} {y n : Nat} (hn : y + n ≤ target.height)
    (h : AgreesUpTo target 0 y image) : AgreesUpTo target 0 (y + n)
      (((rowsFrom target y n).zipIdx y).foldl (fun image p => paintRow target image p.1 p.2)
        image) := by
  induction n generalizing y image with
  | zero => exact h
  | succ n ih =>
    have hcons : rowsFrom target y (n + 1) =
        line (rowPixels target y) :: rowsFrom target (y + 1) n := rfl
    have hrow : paintRow target image (line (rowPixels target y)) y =
        (List.range target.width).foldl (fun image i => image.set i y (target.get i y)) image := by
      refine List.foldl_ext _ _ _ fun image i hi => ?_
      rw [pixel_line ⟨List.mem_range.1 hi, by omega⟩, Nat.zero_add, Nat.zero_add, Nat.mul_one,
        Nat.mul_one]
    rw [hcons, List.zipIdx_cons, List.foldl_cons]
    dsimp only
    rw [hrow, ← Nat.succ_add_eq_add_succ]
    exact ih (by omega) (h.row (by omega))

/-- Painting the only pass paints the rows one after the other. -/
theorem paint_wholePass {target : Image} (hw : 0 < target.width) (data : ByteArray) (start : Nat)
    (image : Image) : wholePass.paint (plainLook target) data start image =
      (unfilterRows (plainLook target).header.unit (4 * target.width) data target.height start
        ByteArray.empty).zipIdx.foldl (fun image p => paintRow target image p.1 p.2) image := by
  unfold Pass.paint
  dsimp only
  rw [columns_wholePass, rowSize_plain, rows_wholePass hw]
  rfl

/-- The rows of an image make it again. -/
theorem image_packedRows {image : Image} (hw : 0 < image.width) :
    (plainLook image).image (packedRows image) = image := by
  have hrows : unfilterRows (plainLook image).header.unit (4 * image.width) (packedRows image)
      image.height 0 ByteArray.empty = rowsFrom image 0 image.height := by
    have hdata : packedRows image = ByteArray.empty ++ filtered (rowsFrom image 0 image.height) := by
      rw [packedRows_eq, ByteArray.empty_append]
    have hfiltered : unfilterRows (plainLook image).header.unit (4 * image.width)
        (packedRows image) (rowsFrom image 0 image.height).length ByteArray.empty.size
        ByteArray.empty = rowsFrom image 0 image.height :=
      unfilterRows_filtered hdata (size_of_mem_rows image) ByteArray.empty
    rwa [length_rowsFrom] at hfiltered
  have himage : (plainLook image).image (packedRows image) =
      wholePass.paint (plainLook image) (packedRows image) 0
        (.blank image.width image.height) := rfl
  have hpainted := agreesUpTo_rows (Nat.le_of_eq (Nat.zero_add image.height)) (.blank image)
  rw [Nat.zero_add] at hpainted
  rw [himage, paint_wholePass hw, hrows]
  exact hpainted.eq

end CanvasScript.Picture.Png
