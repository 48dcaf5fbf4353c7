import CanvasScript.Text.Case

/-!
# Letter case of ASCII texts

* `IsAscii`: the texts that only have ASCII characters.

Results:
* `foldChar_induction`: folding changes nothing but capitals.
* `lower_of_isAscii`: the Unicode mapping does to them what `foldAscii` does.
* `lower_of_sameFold`: a text that is an ASCII text up to the case of ASCII letters has the same
  lower case.
-/

namespace CanvasScript.Text

/-- All characters of the text are ASCII characters. -/
def IsAscii (s : String) : Prop :=
  ∀ c ∈ s.toList, c.toNat < 128

instance (s : String) : Decidable (IsAscii s) :=
  List.decidableBAll _ s.toList

/-- What holds of all characters that are left alone, and of the capitals, holds of all. -/
theorem foldChar_induction {R : Char → Char → Prop} (hrefl : ∀ c, R c c)
    (hcapital : ∀ n < 91, 65 ≤ n → R (Char.ofNat n) (foldChar (Char.ofNat n))) (c : Char) :
    R c (foldChar c) := by
  by_cases h : 'A' ≤ c ∧ c ≤ 'Z'
  · have hfirst : 65 ≤ c.toNat := UInt32.le_iff_toNat_le.1 h.1
    have hlast : c.toNat ≤ 90 := UInt32.le_iff_toNat_le.1 h.2
    have hc := hcapital c.toNat (Nat.lt_succ_of_le hlast) hfirst
    rwa [Char.ofNat_toNat] at hc
  · rw [foldChar, if_neg h]
    exact hrefl c

theorem lowerFrom_of_isAscii {before cs : List Char} (h : ∀ c ∈ cs, c.toNat < 128) :
    lowerFrom before cs = cs.map foldChar := by
  induction cs generalizing before with
  | nil => rfl
  | cons c cs ih =>
    obtain ⟨hc, hcs⟩ := List.forall_mem_cons.1 h
    have hsigma : c ≠ 'Σ' := by
      rintro rfl
      exact absurd hc (by decide)
    rw [lowerFrom, if_neg hsigma, lowerChar, if_pos hc, ih hcs]
    rfl

/-- On ASCII texts the two lower cases agree. -/
theorem lower_of_isAscii {s : String} (h : IsAscii s) : lower s = foldAscii s := by
  rw [lower, lowerFrom_of_isAscii h, foldAscii]

/-- Only ASCII characters fold to ASCII characters. -/
theorem toNat_lt_of_foldChar {c : Char} (h : (foldChar c).toNat < 128) : c.toNat < 128 := by
  unfold foldChar at h
  split at h
  · rename_i hc
    have hle : c.val.toNat ≤ 'Z'.val.toNat := UInt32.le_iff_toNat_le.1 hc.2
    exact Nat.lt_of_le_of_lt hle (by decide)
  · exact h

theorem isAscii_foldAscii {s : String} : IsAscii (foldAscii s) ↔ IsAscii s := by
  unfold IsAscii foldAscii
  rw [String.toList_ofList, List.forall_mem_map]
  constructor
  · intro h c hc
    exact toNat_lt_of_foldChar (h c hc)
  · intro h c hc
    have hlt := h c hc
    unfold foldChar
    split
    · rename_i hrange
      have hle : c.val.toNat ≤ 'Z'.val.toNat := UInt32.le_iff_toNat_le.1 hrange.2
      have hvalid : (c.toNat + 32).isValidChar := .inl (by omega)
      rw [Char.ofNat, dif_pos hvalid]
      exact Nat.lt_of_le_of_lt (Nat.add_le_add_right hle 32) (by decide)
    · exact hlt

/-- A text that is an ASCII text up to the case of ASCII letters has the same lower case. -/
theorem lower_of_sameFold {s t : String} (hs : IsAscii s) (h : sameFold s t = true) :
    lower t = lower s := by
  rw [sameFold, beq_iff_eq] at h
  have ht : IsAscii t := by
    rw [← isAscii_foldAscii, ← h, isAscii_foldAscii]
    exact hs
  rw [lower_of_isAscii ht, lower_of_isAscii hs, h]

end CanvasScript.Text
