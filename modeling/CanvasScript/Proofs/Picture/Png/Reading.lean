import CanvasScript.Picture.Png.Reading
import CanvasScript.Proofs.Picture.Deflate
import CanvasScript.Proofs.Picture.Png.Rows

/-!
# Image files are read as they were written

A file that has been written consists of a signature, a header, one part with all rows, and an end.
Reading it comes to each of them in turn.

* `PartAt`: a part of a kind stands in a file behind other octets.
* `Fits`: the sizes of an image and of its rows can be written.

Results:
* `PartAt.at?`, `PartAt.data_eq`, `PartAt.checkPart_eq`: the part is found, with what it holds, and
  its check is right.
* `readKnown_write`: the header of a file that has been written, and where its rows are.
* `judge_packed`: all rows are there, and nothing is wrong with them.
* `read_write`: the image that is read is the one that was written, if it has a pixel and is not
  too large to be read.
-/

namespace CanvasScript.Picture.Png

open Octets

/-! ## Parts -/

theorem size_part (kind : Kind) (data : ByteArray) : (part kind data).size = data.size + 12 := by
  simp only [part, ByteArray.size_append, size_ofNat]
  omega

/-- A part stands in a file, behind some octets and in front of others. -/
structure PartAt (file before : ByteArray) (kind : Kind) (data after : ByteArray) : Prop where
  file_eq : file = before ++ part kind data ++ after
  kind_lt : kind.code < 256 ^ 4
  size_lt : data.size < 256 ^ 4

namespace PartAt

variable {file before data after : ByteArray} {kind : Kind}

/-- The place of what the part holds. -/
def place (before : ByteArray) (kind : Kind) (data : ByteArray) : Part :=
  ⟨kind, before.size + 8, data.size⟩

theorem nat_eq (h : PartAt file before kind data after) {i n : Nat} (hi : i + n ≤ data.size + 12) :
    nat file (before.size + i) n = nat (part kind data) i n := by
  rw [h.file_eq, nat_middle before (by rwa [size_part])]

theorem size_eq (h : PartAt file before kind data after) :
    file.size = before.size + (data.size + 12) + after.size := by
  rw [h.file_eq, ByteArray.size_append, ByteArray.size_append, size_part]

/-- The part is found. -/
theorem at? (h : PartAt file before kind data after) :
    partAt file before.size = .ok (place before kind data) := by
  have hsize : nat file before.size 4 = data.size := by
    have hnat := h.nat_eq (i := 0) (n := 4) (by omega)
    rw [Nat.add_zero] at hnat
    rw [hnat, part, ByteArray.append_assoc, nat_append_left (by simp), nat_ofNat h.size_lt]
  have hkind : nat file (before.size + 4) 4 = kind.code := by
    rw [h.nat_eq (by omega), part, ByteArray.append_assoc, ByteArray.append_assoc]
    have hnat := nat_append_right (ofNat data.size 4)
      (ofNat kind.code 4 ++ (data ++ ofNat (cycle (ofNat kind.code 4 ++ data)).toNat 4)) 0 4
    rw [size_ofNat] at hnat
    rw [hnat, nat_append_left (by simp), nat_ofNat h.kind_lt]
  have hlength := h.size_eq
  rw [partAt, Part.at?, if_pos (by omega), hsize, hkind]
  rfl

/-- The kind of the part, and what it holds. -/
theorem slice_body (h : PartAt file before kind data after) :
    slice file (before.size + 4) (data.size + 4) = ofNat kind.code 4 ++ data := by
  have hstart : (before ++ ofNat data.size 4).size = before.size + 4 := by
    rw [ByteArray.size_append, size_ofNat]
  have hbody : (ofNat kind.code 4 ++ data).size = data.size + 4 := by
    rw [ByteArray.size_append, size_ofNat, Nat.add_comm]
  have hfile : file = before ++ ofNat data.size 4 ++ (ofNat kind.code 4 ++ data) ++
      (ofNat (cycle (ofNat kind.code 4 ++ data)).toNat 4 ++ after) := by
    rw [h.file_eq]
    simp only [part, ByteArray.append_assoc]
  rw [← hstart, ← hbody, hfile, slice_middle]

theorem data_eq (h : PartAt file before kind data after) :
    (place before kind data).data file = data := by
  have hstart : (before ++ ofNat data.size 4 ++ ofNat kind.code 4).size = before.size + 8 := by
    simp only [ByteArray.size_append, size_ofNat]
  have hfile : file = before ++ ofNat data.size 4 ++ ofNat kind.code 4 ++ data ++
      (ofNat (cycle (ofNat kind.code 4 ++ data)).toNat 4 ++ after) := by
    rw [h.file_eq]
    simp only [part, ByteArray.append_assoc]
  rw [Part.data, place, ← hstart, hfile, slice_middle]

/-- The check of the part is right. -/
theorem checkPart_eq (h : PartAt file before kind data after) :
    checkPart file (place before kind data) = .ok true := by
  have hstop : (place before kind data).stop = before.size + (data.size + 8) := by
    simp only [Part.stop, place]
    omega
  have hcheck : (place before kind data).check file =
      (cycle (ofNat kind.code 4 ++ data)).toNat := by
    have hbody : (ofNat data.size 4 ++ (ofNat kind.code 4 ++ data)).size = data.size + 8 := by
      simp only [ByteArray.size_append, size_ofNat]
      omega
    rw [Part.check, hstop, h.nat_eq (by omega), part, ← hbody]
    exact (nat_append_right _ _ 0 4).trans (nat_ofNat (UInt32.toNat_lt _))
  have hright : (place before kind data).rightCheck file =
      (cycle (ofNat kind.code 4 ++ data)).toNat :=
    congrArg (fun body => (cycle body).toNat) h.slice_body
  have hlength := h.size_eq
  rw [checkPart, Part.isSound?, hstop, if_pos (by omega), hcheck, hright, beq_self_eq_true]

/-- The next part stands behind the check. -/
theorem stop_eq (before : ByteArray) (kind : Kind) (data : ByteArray) :
    (place before kind data).stop + 4 = (before ++ part kind data).size := by
  rw [ByteArray.size_append, size_part]
  simp only [Part.stop, place]
  omega

end PartAt

/-! ## The header -/

/-- The header of an image, with four channels of eight bits. -/
def headerData (image : Image) : ByteArray :=
  ofNat image.width 4 ++ ofNat image.height 4 ++ ByteArray.mk #[8, 6, 0, 0, 0]

theorem size_headerData (image : Image) : (headerData image).size = 13 := by
  simp only [headerData, ByteArray.size_append, size_ofNat]
  rfl

theorem field_headerData (image : Image) (i n : Nat) (h : i + n ≤ 13) :
    field .header (headerData image) i n = .ok (nat (headerData image) i n) := by
  rw [field, if_pos (by rwa [size_headerData])]

theorem nat_headerData_width {image : Image} (h : image.width < 256 ^ 4) :
    nat (headerData image) 0 4 = image.width := by
  rw [headerData, ByteArray.append_assoc, nat_append_left (by simp), nat_ofNat h]

theorem nat_headerData_height {image : Image} (h : image.height < 256 ^ 4) :
    nat (headerData image) 4 4 = image.height := by
  have hnat := nat_middle (ofNat image.width 4) (a := ofNat image.height 4) (i := 0) (n := 4)
    (by simp) (ByteArray.mk #[8, 6, 0, 0, 0])
  rwa [size_ofNat, nat_ofNat h] at hnat

/-- Behind the size there are the numbers that all files have. -/
theorem nat_headerData_rest (image : Image) (i n : Nat) :
    nat (headerData image) (8 + i) n = nat (ByteArray.mk #[8, 6, 0, 0, 0]) i n := by
  have hnat := nat_append_right (ofNat image.width 4 ++ ofNat image.height 4)
    (ByteArray.mk #[8, 6, 0, 0, 0]) i n
  rwa [ByteArray.size_append, size_ofNat, size_ofNat] at hnat

theorem read_headerData {image : Image} (hw : image.width < 256 ^ 4)
    (hh : image.height < 256 ^ 4) :
    Header.read (headerData image) = if image.width = 0 ∨ image.height = 0 then .error .noPixels
      else .ok (plainLook image).header := by
  have hdepth : nat (headerData image) 8 1 = 8 := nat_headerData_rest image 0 1
  have hchannels : nat (headerData image) 9 1 = 6 := nat_headerData_rest image 1 1
  have hpacking : nat (headerData image) 10 1 = 0 := nat_headerData_rest image 2 1
  have hfilter : nat (headerData image) 11 1 = 0 := nat_headerData_rest image 3 1
  have hinterlacing : nat (headerData image) 12 1 = 0 := nat_headerData_rest image 4 1
  unfold Header.read
  dsimp only
  rw [field_headerData image 0 4 (by decide), field_headerData image 4 4 (by decide),
    field_headerData image 8 1 (by decide), field_headerData image 9 1 (by decide),
    field_headerData image 10 1 (by decide), field_headerData image 11 1 (by decide),
    field_headerData image 12 1 (by decide), nat_headerData_width hw, nat_headerData_height hh,
    hdepth, hchannels, hpacking, hfilter, hinterlacing, size_headerData]
  by_cases hempty : image.width = 0 ∨ image.height = 0
  · rw [if_pos hempty]
    exact if_pos hempty
  · rw [if_neg hempty]
    exact if_neg hempty

/-! ## Steps of reading -/

section Steps

variable {file : ByteArray} {p : Part} {k : Known}

/-- The header is read first; a fault in it is the fault of the file. -/
theorem readKnown_of_header (h : partAt file signature.size = .ok p) (hkind : p.kind = .header)
    (hcheck : checkPart file p = .ok true) : readKnown file =
      match Header.read (p.data file) with
      | .ok header => readKnownFrom file file.size ⟨⟨header, none, none⟩, none⟩ (p.stop + 4)
      | .error f => .error f := by
  rw [readKnown, h]
  dsimp only [bind, Except.bind]
  rw [if_neg (not_not_intro hkind), hcheck]
  cases Header.read (p.data file) <;> rfl

/-- The parts that are looked at end with the first one with rows. -/
theorem readKnownFrom_rows {i : Nat} (h : partAt file i = .ok p)
    (hkind : p.kind = .rows) (fuel : Nat) (k : Known) :
    readKnownFrom file (fuel + 1) k i = .ok (k, p) := by
  have hstarts : k.startsRows p.kind = .ok true := if_pos hkind
  rw [readKnownFrom, h]
  dsimp only [bind, Except.bind]
  rw [hstarts]
  rfl

theorem withoutStep_rows (file : ByteArray) (step? : Option Nat) (h : p.kind = .rows) :
    withoutStep file step? p = .ok (step?, p) := by
  have hkind : ¬ p.kind = .frameRows := by
    rw [h]
    decide +kernel
  rw [withoutStep, if_neg hkind]
  rfl

/-- All rows are in one part, and nothing is wrong with them. -/
theorem readRows_of_all {packed rows : ByteArray} (hknown : readKnown file = .ok (k, p))
    (hgather : gather file file.size k.step? p = ⟨[packed], none⟩)
    (hjudge : judge k.look packed = .ok (.all rows)) : readRows file =
      if roomLimit < k.look.header.width * k.look.header.height * k.look.pixelSize then
        .error .tooLarge
      else .ok (k.look, rows) := by
  have hjoined : [packed].foldl (· ++ ·) ByteArray.empty = packed := ByteArray.empty_append
  rw [readRows, hknown]
  dsimp only [bind, Except.bind]
  rw [hgather]
  dsimp only
  rw [hjoined, hjudge]
  split <;> rfl

end Steps

/-! ## Whole files -/

variable {image : Image}

/-- What stands in front of the rows in the file of an image. -/
def beforeRows (image : Image) : ByteArray :=
  signature ++ part .header (headerData image)

/-- The sizes that are written into the file of an image are those that it has. -/
structure Fits (image : Image) : Prop where
  width : image.width < 256 ^ 4
  height : image.height < 256 ^ 4
  rows : (Deflate.pack (packedRows image)).size < 256 ^ 4

theorem headerPart (image : Image) : PartAt (write image) signature .header (headerData image)
    (part .rows (Deflate.pack (packedRows image)) ++ part .ending ByteArray.empty) where
  file_eq := by
    rw [write, ByteArray.append_assoc]
    rfl
  kind_lt := by decide +kernel
  size_lt := by
    rw [size_headerData]
    decide

theorem rowsPart (h : Fits image) : PartAt (write image) (beforeRows image) .rows
    (Deflate.pack (packedRows image)) (part .ending ByteArray.empty) where
  file_eq := rfl
  kind_lt := by decide +kernel
  size_lt := h.rows

theorem endingPart (image : Image) : PartAt (write image)
    (beforeRows image ++ part .rows (Deflate.pack (packedRows image))) .ending ByteArray.empty
    ByteArray.empty where
  file_eq := ByteArray.append_empty.symm
  kind_lt := by decide +kernel
  size_lt := by decide

theorem checkSignature_write (image : Image) : checkSignature (write image) = .ok () := by
  have hfile := (headerPart image).file_eq
  rw [ByteArray.append_assoc] at hfile
  have hsize : 8 ≤ (write image).size := by
    rw [hfile, ByteArray.size_append]
    exact Nat.le_add_right ..
  have hagrees : ∀ n ≤ 8,
      ¬ (!((slice (write image) 0 n).data == (slice signature 0 n).data)) = true := by
    intro n hn
    have hinside : 0 + n ≤ signature.size := (Nat.zero_add n).symm ▸ hn
    rw [hfile, slice_append_left hinside, beq_self_eq_true]
    exact Bool.false_ne_true
  unfold checkSignature
  dsimp only
  rw [if_neg (by omega), if_neg (hagrees 4 (by decide)), if_neg (by omega),
    if_neg (hagrees 8 (by decide))]
  rfl

/-- There is room for the octet of a part. -/
theorem exists_size_write (image : Image) : ∃ n, (write image).size = n + 1 := by
  refine Nat.exists_eq_succ_of_ne_zero ?_
  rw [(headerPart image).size_eq, size_headerData]
  omega

/-- What is known in front of the rows, and the part with the rows. -/
theorem readKnown_write (h : Fits image) : readKnown (write image) =
    if image.width = 0 ∨ image.height = 0 then .error .noPixels
    else .ok (⟨plainLook image, none⟩,
      PartAt.place (beforeRows image) .rows (Deflate.pack (packedRows image))) := by
  have hheader := headerPart image
  have hrows := rowsPart h
  obtain ⟨n, hn⟩ := exists_size_write image
  have hbehind : readKnownFrom (write image) (write image).size ⟨plainLook image, none⟩
      (beforeRows image).size = .ok (⟨plainLook image, none⟩,
        PartAt.place (beforeRows image) .rows (Deflate.pack (packedRows image))) := by
    rw [hn]
    exact readKnownFrom_rows hrows.at? rfl _ _
  rw [readKnown_of_header hheader.at? rfl hheader.checkPart_eq, hheader.data_eq,
    read_headerData h.width h.height, PartAt.stop_eq]
  by_cases hempty : image.width = 0 ∨ image.height = 0
  · rw [if_pos hempty, if_pos hempty]
  · rw [if_neg hempty, if_neg hempty]
    exact hbehind

/-- All rows are in one part. -/
theorem gather_write (h : Fits image) (step? : Option Nat) :
    gather (write image) (write image).size step?
        (PartAt.place (beforeRows image) .rows (Deflate.pack (packedRows image))) =
      ⟨[Deflate.pack (packedRows image)], none⟩ := by
  have hrows := rowsPart h
  obtain ⟨n, hn⟩ := exists_size_write image
  have hending : ¬ Kind.ending = .rows := by decide +kernel
  rw [hn, gather, withoutStep_rows _ _ rfl, hrows.checkPart_eq, PartAt.stop_eq,
    (endingPart image).at?]
  dsimp only
  rw [hrows.data_eq]
  exact congrArg (Gathered.cons _) (if_neg hending)

/-- They are all there, and nothing is wrong with them. -/
theorem judge_packed (hw : 0 < image.width) :
    judge (plainLook image) (Deflate.pack (packedRows image)) = .ok (.all (packedRows image)) := by
  rw [judge, Deflate.unpack_pack, badRow?_packedRows hw]
  dsimp only
  rw [if_pos (Nat.le_of_eq (size_plainLook hw))]

/-- All rows of a file, unless the image has no pixels or is too large to be read. -/
theorem readRows_write (h : Fits image) : readRows (write image) =
    if image.width = 0 ∨ image.height = 0 then .error .noPixels
    else if roomLimit < image.width * image.height * 4 then .error .tooLarge
    else .ok (plainLook image, packedRows image) := by
  by_cases hempty : image.width = 0 ∨ image.height = 0
  · have hknown := readKnown_write h
    rw [if_pos hempty] at hknown ⊢
    rw [readRows, hknown]
    rfl
  · have hw : 0 < image.width := Nat.pos_of_ne_zero fun hzero => hempty (.inl hzero)
    have hknown := readKnown_write h
    rw [if_neg hempty] at hknown ⊢
    rw [readRows_of_all hknown (gather_write h none) (judge_packed hw), pixelSize_plain]
    rfl

/-- **The file of an image is read as the image**, unless it has no pixels or is too large to be
read. -/
theorem read_write (h : Fits image) : read (write image) =
    if image.width = 0 ∨ image.height = 0 then .error .noPixels
    else if roomLimit < image.width * image.height * 4 then .error .tooLarge
    else .ok image := by
  rw [read, checkSignature_write, readRows_write h]
  by_cases hempty : image.width = 0 ∨ image.height = 0
  · rw [if_pos hempty, if_pos hempty]
    rfl
  · have hw : 0 < image.width := Nat.pos_of_ne_zero fun hzero => hempty (.inl hzero)
    rw [if_neg hempty, if_neg hempty]
    by_cases hlarge : roomLimit < image.width * image.height * 4
    · rw [if_pos hlarge, if_pos hlarge]
      rfl
    · rw [if_neg hlarge, if_neg hlarge]
      exact congrArg Except.ok (image_packedRows hw)

end CanvasScript.Picture.Png
