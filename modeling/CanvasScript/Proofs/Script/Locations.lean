import CanvasScript.Proofs.Text.Slice
import CanvasScript.Script.Location
import Mathlib.Algebra.Ring.Nat
import Mathlib.Data.List.Basic

/-!
# Lines and columns

The location of an offset counts the lines and the columns of the text before it. It may be counted
from the start, or on from a location that is already known: at the boundaries of characters both
come to the same.

* `Location.endOf`: the location behind a text.

Results:
* `Location.ofOffset_of_eq`: counted from the start, an offset has the location behind the text
  before it.
* `Location.advance_ofOffset`: so it has when it is counted from any other location.
* `Location.counters_lt`: counters of 32 bits are enough for texts that are shorter than they count.
-/

namespace CanvasScript.Script.Location

open Text (Boundary)

variable {source before middle after : String} {a b : Nat}

/-- The location behind a text: one more than its newlines, and one more than its characters since
the last of them. -/
def endOf (t : String) : Location where
  offset := t.utf8ByteSize
  line := 1 + t.toList.count '\n'
  column := 1 + (t.toList.reverse.takeWhile (· != '\n')).length

/-! ## Counting -/

theorem past_offset (l : Location) (c : Char) (offset : Nat) :
    ({ l with offset } : Location).past c = { l.past c with offset } := by
  unfold past
  split <;> rfl

/-- Counting does not depend on the offset. -/
theorem foldl_past_offset (l : Location) (cs : List Char) (offset : Nat) :
    cs.foldl past { l with offset } = { cs.foldl past l with offset } := by
  induction cs generalizing l with
  | nil => rfl
  | cons c cs ih => rw [List.foldl_cons, past_offset, ih, List.foldl_cons]

theorem past_endOf (t : String) (c : Char) :
    (endOf t).past c = { endOf (t.push c) with offset := t.utf8ByteSize } := by
  unfold past endOf
  by_cases hc : c = '\n'
  · subst hc
    simp [Nat.add_assoc]
  · simp [hc, Nat.add_assoc]

/-- What is counted on from the end of a text is counted from its beginning. -/
theorem foldl_past_endOf (t : String) (cs : List Char) (offset : Nat) :
    { cs.foldl past (endOf t) with offset } =
      { endOf (t ++ String.ofList cs) with offset } := by
  induction cs generalizing t with
  | nil => simp
  | cons c cs ih =>
    have hrest := ih (t.push c)
    rw [List.foldl_cons, past_endOf, foldl_past_offset, String.ofList_cons, ← String.append_assoc,
      ← String.push_eq_append]
    exact hrest

/-! ## Advancing -/

theorem endOf_empty : endOf "" = start := rfl

/-- Offsets beyond the end stand for the end. -/
theorem advance_min (l : Location) (source : String) (offset : Nat) :
    l.advance source (min offset source.utf8ByteSize) = l.advance source offset := by
  rw [advance, Nat.min_assoc, Nat.min_self]
  rfl

/-- From the end of a piece of a script to the end of the next one. -/
theorem advance_endOf (h : source = before ++ middle ++ after) :
    (endOf before).advance source (before ++ middle).utf8ByteSize = endOf (before ++ middle) := by
  have hin : Boundary source (before ++ middle).utf8ByteSize := ⟨_, _, h, rfl⟩
  have hahead : ¬ (before ++ middle).utf8ByteSize < (endOf before).offset := by
    rw [String.utf8ByteSize_append]
    exact Nat.not_lt_of_le (Nat.le_add_right ..)
  have hslice : Text.sliceOrEmpty source (endOf before).offset (before ++ middle).utf8ByteSize =
      middle := by
    rw [String.utf8ByteSize_append]
    exact Text.sliceOrEmpty_of_eq h
  rw [advance, Nat.min_eq_left hin.le, if_neg hahead, hslice, foldl_past_endOf,
    String.ofList_toList]
  rfl

/-- Counted from the start, an offset has the location behind the text before it. -/
theorem ofOffset_of_eq (h : source = before ++ after) :
    ofOffset source before.utf8ByteSize = endOf before := by
  have hsplit : source = "" ++ before ++ after := by simpa using h
  have hadvance := advance_endOf hsplit
  rwa [endOf_empty, String.empty_append] at hadvance

theorem ofOffset_zero (source : String) : ofOffset source 0 = start := by
  have hsplit : source = "" ++ source := String.empty_append.symm
  exact ofOffset_of_eq hsplit

theorem offset_ofOffset (ha : Boundary source a) : (ofOffset source a).offset = a := by
  obtain ⟨before, after, h, rfl⟩ := ha
  rw [ofOffset_of_eq h]
  rfl

/-- A location behind the one to be found does not matter. -/
theorem advance_of_lt {l : Location} (h : min b source.utf8ByteSize < l.offset) :
    l.advance source b = ofOffset source b := by
  rw [ofOffset, advance, advance, if_pos h]
  split <;> rfl

/-- It does not matter from which boundary an offset is counted. -/
theorem advance_of_boundary (ha : Boundary source a) (hb : Boundary source b) :
    (ofOffset source a).advance source b = ofOffset source b := by
  rcases Nat.lt_or_ge b a with hlt | hle
  · refine advance_of_lt ?_
    rw [offset_ofOffset ha]
    exact Nat.lt_of_le_of_lt (Nat.min_le_left ..) hlt
  · obtain ⟨before, middle, after, h, rfl, rfl⟩ := ha.exists_middle hb hle
    rw [ofOffset_of_eq (h.trans (String.append_assoc ..)), advance_endOf h, ofOffset_of_eq h]

/-- The same for offsets past the end, which stand for the end. -/
theorem advance_ofOffset (ha : Boundary source a ∨ source.utf8ByteSize ≤ a)
    (hb : Boundary source b ∨ source.utf8ByteSize ≤ b) :
    (ofOffset source a).advance source b = ofOffset source b := by
  have clamped {o : Nat} (ho : Boundary source o ∨ source.utf8ByteSize ≤ o) :
      Boundary source (min o source.utf8ByteSize) := by
    rcases ho with ho | ho
    · rwa [Nat.min_eq_left ho.le]
    · rw [Nat.min_eq_right ho]
      exact Text.boundary_end source
  have hadvance := advance_of_boundary (clamped ha) (clamped hb)
  rwa [advance_min, ofOffset, advance_min, ofOffset, advance_min] at hadvance

/-- Inside a character nothing is counted, and counting on from there misses what was left out. -/
example :
    (ofOffset "é" 1).advance "é" 2 = ⟨2, 1, 1⟩ ∧ ofOffset "é" 2 = ⟨2, 1, 2⟩ := by
  decide +kernel

/-! ## Counters -/

/-- Counters of 32 bits are enough for texts that are shorter than they count. -/
theorem counters_lt (h : source.length < 2 ^ 32 - 1) (ha : Boundary source a) :
    (ofOffset source a).line < 2 ^ 32 ∧ (ofOffset source a).column < 2 ^ 32 := by
  obtain ⟨before, after, rfl, rfl⟩ := ha
  have hlength : before.toList.length ≤ (before ++ after).length := by
    rw [String.length_append, String.length_toList]
    exact Nat.le_add_right ..
  have hlines : before.toList.count '\n' ≤ before.toList.length := List.count_le_length
  have hcolumns : (before.toList.reverse.takeWhile (· != '\n')).length ≤ before.toList.length := by
    have hprefix := (List.takeWhile_prefix (l := before.toList.reverse) (· != '\n')).length_le
    rwa [List.length_reverse] at hprefix
  rw [ofOffset_of_eq rfl]
  unfold endOf
  constructor <;> dsimp only <;> omega

end CanvasScript.Script.Location
