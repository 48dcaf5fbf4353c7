/-!
# Octets

Numbers that stand in a row of octets, the highest octet first.

* `Octets.get`, `Octets.nat`, `Octets.int`: a number at a place; beyond the end there are zeros.
* `Octets.ofNat`: the octets of a number.
* `Octets.cycle`: the cyclic redundancy check of some octets, by the reversed polynomial
  `0xedb88320`.
-/

namespace CanvasScript.Octets

/-- The octet at a place. -/
def get (b : ByteArray) (i : Nat) : Nat :=
  (b[i]?.getD 0).toNat

/-- The number in `n` octets from a place on. -/
def nat (b : ByteArray) (i : Nat) : Nat → Nat
  | 0 => 0
  | n + 1 => 256 * nat b i n + get b (i + n)

/-- The number in `n` octets from a place on, as a complement of two. -/
def int (b : ByteArray) (i n : Nat) : Int :=
  let x := nat b i n
  if 128 ≤ get b i then (x : Int) - Nat.pow 256 n else x

/-- The lowest `n` octets of a number. -/
def ofNat (x : Nat) : Nat → ByteArray
  | 0 => ByteArray.empty
  | n + 1 => (ofNat (x / 256) n).push (UInt8.ofNat (x % 256))

/-- The octets from a place on, at most `n` of them. -/
def slice (b : ByteArray) (i n : Nat) : ByteArray :=
  b.extract i (i + n)

/-! ## Checks -/

/-- One bit of a remainder moved out. -/
def shift (r : UInt32) : UInt32 :=
  if r &&& 1 == 1 then (r >>> 1) ^^^ 0xedb88320 else r >>> 1

/-- `n` bits of a remainder moved out. -/
def shifts : Nat → UInt32 → UInt32
  | 0, r => r
  | n + 1, r => shifts n (shift r)

/-- The remainders of single octets. -/
def remainders : Array UInt32 :=
  Array.ofFn fun i : Fin 256 => shifts 8 (UInt32.ofNat i.val)

/-- The remainder behind one more octet. -/
def step (r : UInt32) (x : UInt8) : UInt32 :=
  remainders.getD ((r ^^^ x.toUInt32) &&& 255).toNat 0 ^^^ (r >>> 8)

/-- The cyclic redundancy check of some octets. -/
def cycle (b : ByteArray) : UInt32 :=
  b.foldl step 0xffffffff ^^^ 0xffffffff

end CanvasScript.Octets
