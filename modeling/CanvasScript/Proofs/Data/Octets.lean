import CanvasScript.Data.Octets
import Mathlib.Algebra.Ring.Nat

/-!
# Octets put together

Octets are read back from where they have been put, whatever stands before and behind them.

* `get_append_left`, `get_append_right`, `nat_append_left`, `nat_append_right`: numbers in the first
  and in the second of two rows of octets.
* `slice_append_left`, `slice_append_right`: octets from one of them alone.
* `nat_middle`, `slice_middle`: the same in the middle of other octets.
* `nat_ofNat`: the number that the octets of a number make.
-/

namespace CanvasScript.Octets

variable {a b : ByteArray} {i n x : Nat}

/-! ## Single octets -/

theorem get_of_lt (h : i < b.size) : get b i = b[i].toNat := by
  simp [get, h]

theorem get_of_le (h : b.size ≤ i) : get b i = 0 := by
  simp [get, Nat.not_lt.2 h]

theorem get_append_left (h : i < a.size) (b : ByteArray) : get (a ++ b) i = get a i := by
  have hlt : i < (a ++ b).size := by
    rw [ByteArray.size_append]
    omega
  rw [get_of_lt h, get_of_lt hlt, ByteArray.getElem_append_left h]

theorem get_append_right (a b : ByteArray) (i : Nat) : get (a ++ b) (a.size + i) = get b i := by
  by_cases h : i < b.size
  · have hlt : a.size + i < (a ++ b).size := by
      rw [ByteArray.size_append]
      omega
    rw [get_of_lt h, get_of_lt hlt, ByteArray.getElem_append_right (Nat.le_add_right ..)]
    simp
  · have hle : (a ++ b).size ≤ a.size + i := by
      rw [ByteArray.size_append]
      omega
    rw [get_of_le (Nat.le_of_not_lt h), get_of_le hle]

theorem push_eq_append (b : ByteArray) (x : UInt8) : b.push x = b ++ ByteArray.mk #[x] :=
  ByteArray.append_toByteArray_singleton.symm

@[simp] theorem get_push_self (b : ByteArray) (x : UInt8) : get (b.push x) b.size = x.toNat := by
  rw [push_eq_append]
  exact get_append_right b (ByteArray.mk #[x]) 0

/-! ## Numbers -/

theorem nat_append_left (h : i + n ≤ a.size) (b : ByteArray) : nat (a ++ b) i n = nat a i n := by
  induction n with
  | zero => rfl
  | succ n ih => rw [nat, nat, ih (by omega), get_append_left (by omega)]

theorem nat_append_right (a b : ByteArray) (i n : Nat) :
    nat (a ++ b) (a.size + i) n = nat b i n := by
  induction n with
  | zero => rfl
  | succ n ih => rw [nat, nat, ih, Nat.add_assoc, get_append_right]

/-- A number in the middle of other octets. -/
theorem nat_middle (before : ByteArray) (h : i + n ≤ a.size) (after : ByteArray) :
    nat (before ++ a ++ after) (before.size + i) n = nat a i n := by
  rw [ByteArray.append_assoc, nat_append_right, nat_append_left h]

@[simp] theorem size_ofNat (x n : Nat) : (ofNat x n).size = n := by
  induction n generalizing x with
  | zero => rfl
  | succ n ih => rw [ofNat, ByteArray.size_push, ih]

/-- The octets of a number make it again, if there are enough of them. -/
theorem nat_ofNat (h : x < 256 ^ n) : nat (ofNat x n) 0 n = x := by
  induction n generalizing x with
  | zero =>
    have hx : x = 0 := by simpa using h
    rw [hx, nat]
  | succ n ih =>
    have hdiv : x / 256 < 256 ^ n := by
      rw [Nat.div_lt_iff_lt_mul (by decide)]
      simpa [Nat.pow_succ] using h
    have hinit : nat ((ofNat (x / 256) n).push (UInt8.ofNat (x % 256))) 0 n = x / 256 := by
      rw [push_eq_append, nat_append_left (by simp), ih hdiv]
    have hlast : get ((ofNat (x / 256) n).push (UInt8.ofNat (x % 256))) n = x % 256 := by
      have hself := get_push_self (ofNat (x / 256) n) (UInt8.ofNat (x % 256))
      rw [size_ofNat] at hself
      rw [hself]
      simp
    rw [ofNat, nat, Nat.zero_add, hinit, hlast]
    omega

/-! ## Slices -/

theorem slice_append_left (h : i + n ≤ a.size) (b : ByteArray) :
    slice (a ++ b) i n = slice a i n := by
  have hrest : b.extract (i - a.size) (i + n - a.size) = ByteArray.empty := by
    rw [ByteArray.extract_eq_empty_iff]
    omega
  rw [slice, slice, ByteArray.extract_append, hrest, ByteArray.append_empty]

theorem slice_append_right (a b : ByteArray) (i n : Nat) :
    slice (a ++ b) (a.size + i) n = slice b i n := by
  unfold slice
  rw [Nat.add_assoc, ByteArray.extract_append_size_add]

theorem slice_self (b : ByteArray) : slice b 0 b.size = b := by
  rw [slice, Nat.zero_add, ByteArray.extract_zero_size]

/-- Octets in the middle of others. -/
theorem slice_middle (before a after : ByteArray) :
    slice (before ++ a ++ after) before.size a.size = a := by
  have hfirst : slice (a ++ after) 0 a.size = a := by
    rw [slice_append_left (by omega), slice_self]
  have hmiddle := slice_append_right before (a ++ after) 0 a.size
  rw [Nat.add_zero] at hmiddle
  rw [ByteArray.append_assoc, hmiddle, hfirst]

end CanvasScript.Octets
