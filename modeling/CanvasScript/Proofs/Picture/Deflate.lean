import CanvasScript.Picture.Deflate
import CanvasScript.Proofs.Data.Octets
import Mathlib.Data.List.Range

/-!
# Packed data is unpacked again

Data is packed as blocks that are copied, each behind its size. The blocks are read one after the
other, and what they hold is put together again.

* `stored`, `blocks`: a block, and blocks of which the last one is marked.
* `pieces`, `joined`: what the blocks of packed data hold, and all of it together.

Results:
* `readBlock_stored`, `readBlocks_blocks`: one block read, and then all of them.
* `pack_eq`: packed data is a frame around blocks, which hold all of the data (`joined_all`).
* `size_pack`: the size of packed data.
* `unpack_pack`: it is unpacked as what was packed.
-/

namespace CanvasScript.Picture.Deflate

open Octets

variable {b out : ByteArray}

/-! ## Bits -/

theorem bit_eq {i : Nat} (h : i / 8 < b.size) :
    bit b i = .ok ((get b (i / 8) >>> (i % 8)) % 2, i + 1) := by
  unfold bit
  rw [getElem?_pos b (i / 8) h, get_of_lt h]

theorem bits_succ {n i j k low high : Nat} (hlow : bit b i = .ok (low, j))
    (hhigh : bits b n j = .ok (high, k)) : bits b (n + 1) i = .ok (2 * high + low, k) := by
  have hbind : bits b (n + 1) i =
      (bit b i >>= fun p => bits b n p.2 >>= fun q => pure (2 * q.1 + p.1, q.2)) := rfl
  rw [hbind, hlow]
  exact congrArg (· >>= fun q : Nat × Nat => pure (2 * q.1 + low, q.2)) hhigh

/-! ## Blocks -/

/-- The octets in front of a block that is copied. -/
def head (last : Bool) (size : Nat) : ByteArray :=
  ByteArray.mk #[if last then 1 else 0, UInt8.ofNat (size % 256), UInt8.ofNat (size / 256),
    UInt8.ofNat ((65535 - size) % 256), UInt8.ofNat ((65535 - size) / 256)]

/-- A block that is copied. -/
def stored (last : Bool) (data : ByteArray) : ByteArray :=
  head last data.size ++ data

theorem size_stored (last : Bool) (data : ByteArray) : (stored last data).size = 5 + data.size :=
  ByteArray.size_append

section Stored

variable {file before data after : ByteArray} {last : Bool}

/-- What stands in front of a block that is copied, wherever the block is. -/
theorem get_head (hfile : file = before ++ stored last data ++ after) (h : data.size ≤ 65535) :
    get file before.size = last.toNat ∧
      get file (before.size + 1) + 256 * get file (before.size + 2) = data.size ∧
      get file (before.size + 3) + 256 * get file (before.size + 4) = 65535 - data.size := by
  have hget : ∀ i < 5, get file (before.size + i) = get (head last data.size) i := by
    intro i hi
    rw [hfile, stored, ByteArray.append_assoc, ByteArray.append_assoc, get_append_right,
      get_append_left hi]
  have hflag := hget 0 (by decide)
  rw [Nat.add_zero] at hflag
  have hoctet : ∀ n, (UInt8.ofNat n).toNat = n % 256 := fun n => UInt8.toNat_ofNat'
  refine ⟨?_, ?_, ?_⟩
  · rw [hflag]
    cases last <;> rfl
  · rw [hget 1 (by decide), hget 2 (by decide)]
    show (UInt8.ofNat _).toNat + 256 * (UInt8.ofNat _).toNat = _
    rw [hoctet, hoctet]
    omega
  · rw [hget 3 (by decide), hget 4 (by decide)]
    show (UInt8.ofNat _).toNat + 256 * (UInt8.ofNat _).toNat = _
    rw [hoctet, hoctet]
    omega

/-- What a block holds stands behind its head. -/
theorem slice_stored (hfile : file = before ++ stored last data ++ after) :
    slice file (before.size + 5) data.size = data := by
  have hplace : before.size + 5 = (before ++ head last data.size).size := by
    rw [ByteArray.size_append]
    rfl
  rw [hfile, stored, ← ByteArray.append_assoc, hplace, slice_middle]

theorem size_of_stored (hfile : file = before ++ stored last data ++ after) :
    file.size = before.size + (5 + data.size) + after.size := by
  rw [hfile, ByteArray.size_append, ByteArray.size_append, size_stored]

/-- Of the bits in front of a block, the first one says whether it is the last block, and the others
are zeros. -/
theorem bit_stored (hfile : file = before ++ stored last data ++ after) (h : data.size ≤ 65535)
    (n : Nat) (hn : n < 8) :
    bit file (8 * before.size + n) = .ok (last.toNat >>> n % 2, 8 * before.size + n + 1) := by
  have hlength := size_of_stored hfile
  have hplace : (8 * before.size + n) / 8 = before.size := by omega
  have hshift : (8 * before.size + n) % 8 = n := by omega
  rw [bit_eq (by omega), hplace, hshift, (get_head hfile h).1]

/-- Behind the mark of the last block, a block is read as one that is copied. -/
theorem readBlock_stored (hfile : file = before ++ stored last data ++ after)
    (h : data.size ≤ 65535) (out : ByteArray) : readBlock file out (8 * before.size + 1) =
      ⟨out ++ data, .ok (8 * (before.size + (5 + data.size)))⟩ := by
  obtain ⟨-, hsize, hcheck⟩ := get_head hfile h
  have hdata := slice_stored hfile
  have hlength := size_of_stored hfile
  have hkind : bits file 2 (8 * before.size + 1) = .ok (0, 8 * before.size + 3) := by
    have hbits := bits_succ (bit_stored hfile h 1 (by decide))
      (bits_succ (n := 0) (bit_stored hfile h 2 (by decide)) rfl)
    cases last <;> exact hbits
  have hstart : (8 * before.size + 3 + 7) / 8 = before.size + 1 := by omega
  rw [readBlock, hkind]
  simp only [readCopied, hstart, Nat.add_assoc, Nat.reduceAdd, hsize, hcheck, hdata]
  rw [if_neg (by omega), if_neg (by simp), if_pos (by omega)]

/-- A block is read where it stands, and the others are read behind it. -/
theorem readBlocks_stored (hfile : file = before ++ stored last data ++ after)
    (h : data.size ≤ 65535) (fuel : Nat) (out : ByteArray) :
    readBlocks file (fuel + 1) out (8 * before.size) =
      if last then ⟨out ++ data, .ok (8 * (before ++ stored last data).size)⟩
      else readBlocks file fuel (out ++ data) (8 * (before ++ stored last data).size) := by
  have hmark := bit_stored hfile h 0 (by decide)
  rw [Nat.add_zero] at hmark
  rw [readBlocks, hmark, ByteArray.size_append, size_stored]
  dsimp only
  rw [readBlock_stored hfile h]
  cases last <;> rfl

end Stored

/-- Blocks one after the other, the last one being marked. -/
def blocks : List ByteArray → ByteArray
  | [] => ByteArray.empty
  | [data] => stored true data
  | data :: rest => stored false data ++ blocks rest

/-- What blocks hold. -/
def joined : List ByteArray → ByteArray
  | [] => ByteArray.empty
  | data :: rest => data ++ joined rest

theorem blocks_cons (data : ByteArray) {rest : List ByteArray} (h : rest ≠ []) :
    blocks (data :: rest) = stored false data ++ blocks rest := by
  cases rest with
  | nil => exact absurd rfl h
  | cons => rfl

/-- All blocks are read up to the one that is marked. -/
theorem readBlocks_blocks {file before after : ByteArray} {pieces : List ByteArray}
    (hfile : file = before ++ blocks pieces ++ after) (hne : pieces ≠ [])
    (h : ∀ data ∈ pieces, data.size ≤ 65535) {fuel : Nat} (hfuel : pieces.length ≤ fuel)
    (out : ByteArray) : readBlocks file fuel out (8 * before.size) =
      ⟨out ++ joined pieces, .ok (8 * (before ++ blocks pieces).size)⟩ := by
  induction pieces generalizing before fuel out with
  | nil => exact absurd rfl hne
  | cons data rest ih =>
    obtain ⟨hdata, hrest⟩ := List.forall_mem_cons.1 h
    obtain ⟨fuel, rfl⟩ : ∃ k, fuel = k + 1 := Nat.exists_eq_succ_of_ne_zero (by simp at hfuel; omega)
    by_cases hlast : rest = []
    · subst hlast
      have hone : file = before ++ stored true data ++ after := hfile
      rw [readBlocks_stored hone hdata, if_pos rfl, joined, joined, ByteArray.append_empty]
      rfl
    · rw [blocks_cons data hlast, ← ByteArray.append_assoc] at hfile ⊢
      have hsplit : file = before ++ stored false data ++ (blocks rest ++ after) := by
        rw [hfile, ByteArray.append_assoc]
      rw [readBlocks_stored hsplit hdata, if_neg Bool.false_ne_true,
        ih hfile hlast hrest (by simpa using hfuel), joined, ByteArray.append_assoc]

/-! ## Packed data -/

/-- The pieces of some data from the `n`-th on, `m` of them. -/
def pieces (b : ByteArray) (n m : Nat) : List ByteArray :=
  (List.range' n m).map fun k => slice b (blockSize * k) blockSize

theorem size_slice_le (b : ByteArray) (i n : Nat) : (slice b i n).size ≤ n := by
  rw [slice, ByteArray.size_extract]
  omega

theorem block_eq (b : ByteArray) (n : Nat) :
    block b n = stored (n + 1 == blockCount b) (slice b (blockSize * n) blockSize) := by
  simp [block, stored, head]

/-- The pieces put together are the data from the first of them to the last. -/
theorem joined_pieces (b : ByteArray) (n m : Nat) :
    joined (pieces b n m) = b.extract (blockSize * n) (blockSize * (n + m)) := by
  induction m generalizing n with
  | zero => simp [pieces, joined]
  | succ m ih =>
    have hsplit := ByteArray.extract_eq_extract_append_extract (a := b) (blockSize * (n + 1))
      (Nat.mul_le_mul_left blockSize (Nat.le_succ n))
      (Nat.mul_le_mul_left blockSize (show n + 1 ≤ n + 1 + m by omega))
    have hcons : pieces b n (m + 1) = slice b (blockSize * n) blockSize :: pieces b (n + 1) m := rfl
    rw [hcons, joined, ih, Nat.add_comm m 1, ← Nat.add_assoc, hsplit]
    rfl

theorem foldl_block (out : ByteArray) {n m : Nat} (h : n + m = blockCount b) (hm : 0 < m) :
    (List.range' n m).foldl (fun out k => out ++ block b k) out = out ++ blocks (pieces b n m) := by
  induction m generalizing n out with
  | zero => cases hm
  | succ m ih =>
    rw [List.range'_succ, List.foldl_cons, block_eq]
    by_cases hlast : m = 0
    · subst hlast
      have hmark : (n + 1 == blockCount b) = true := by simpa using h
      rw [hmark]
      rfl
    · have hmark : (n + 1 == blockCount b) = false := by
        rw [beq_eq_false_iff_ne]
        omega
      have hne : pieces b (n + 1) m ≠ [] := by simp [pieces, hlast]
      have hcons : pieces b n (m + 1) = slice b (blockSize * n) blockSize :: pieces b (n + 1) m := rfl
      rw [hmark, ih _ (by omega) (by omega), hcons, blocks_cons _ hne, ByteArray.append_assoc]

/-- The two octets in front of the blocks. -/
def frame : ByteArray := ByteArray.mk #[0x78, 0x01]

theorem pack_eq (b : ByteArray) :
    pack b = frame ++ blocks (pieces b 0 (blockCount b)) ++ Octets.ofNat (sum b) 4 := by
  rw [pack, List.range_eq_range', foldl_block _ (Nat.zero_add _) (Nat.le_max_left ..)]
  rfl

theorem joined_all (b : ByteArray) : joined (pieces b 0 (blockCount b)) = b := by
  have hcount : b.size ≤ blockSize * blockCount b := by
    unfold blockCount blockSize
    omega
  have hall := ByteArray.extract_zero_max_size (a := b) (i := blockSize * blockCount b)
  rw [Nat.max_eq_left hcount] at hall
  rw [joined_pieces, Nat.mul_zero, Nat.zero_add, hall]

/-- There are five octets in front of every block. -/
theorem size_blocks (pieces : List ByteArray) :
    (blocks pieces).size = 5 * pieces.length + (joined pieces).size := by
  induction pieces with
  | nil => rfl
  | cons data rest ih =>
    rw [joined, ByteArray.size_append, List.length_cons]
    by_cases hlast : rest = []
    · subst hlast
      rw [blocks, size_stored]
      rfl
    · rw [blocks_cons data hlast, ByteArray.size_append, size_stored, ih]
      omega

theorem length_pieces (b : ByteArray) (n m : Nat) : (pieces b n m).length = m := by
  simp [pieces]

theorem size_pack (b : ByteArray) : (pack b).size = 5 * blockCount b + b.size + 6 := by
  rw [pack_eq, ByteArray.size_append, ByteArray.size_append, size_ofNat, size_blocks, joined_all,
    length_pieces]
  show 2 + _ + 4 = _
  omega

/-- **What is packed is unpacked again**, and nothing of the packed data is left. -/
theorem unpack_pack (b : ByteArray) : unpack (pack b) = ⟨b, .ok (8 * (pack b).size)⟩ := by
  have hpack := pack_eq b
  have hsize : (pack b).size = (frame ++ blocks (pieces b 0 (blockCount b))).size + 4 := by
    rw [hpack, ByteArray.size_append, size_ofNat]
  have hget : ∀ i < 2, get (pack b) i = get frame i := by
    intro i hi
    rw [hpack, ByteArray.append_assoc, get_append_left hi]
  have hframed : isFramed (pack b) = true := by
    rw [isFramed, hget 0 (by decide), hget 1 (by decide)]
    rfl
  have hne : pieces b 0 (blockCount b) ≠ [] := by
    simp [pieces, blockCount]
  have hfuel : (pieces b 0 (blockCount b)).length ≤ 8 * (pack b).size + 1 := by
    rw [length_pieces, size_pack]
    omega
  have hpieces : ∀ data ∈ pieces b 0 (blockCount b), data.size ≤ 65535 := by
    intro data hdata
    obtain ⟨k, -, rfl⟩ := List.mem_map.1 hdata
    exact size_slice_le b _ _
  have hread := readBlocks_blocks hpack hne hpieces hfuel ByteArray.empty
  rw [joined_all, ByteArray.empty_append] at hread
  have hstart : 16 = 8 * frame.size := rfl
  have hstop : (8 * (frame ++ blocks (pieces b 0 (blockCount b))).size + 7) / 8 + 4 =
      (pack b).size := by
    rw [hsize]
    omega
  rw [unpack, if_neg (by omega), hframed, hstart, hread]
  dsimp only
  rw [hstop, if_pos (Nat.le_refl _)]
  rfl

end CanvasScript.Picture.Deflate
