import CanvasScript.Text.Slice

/-!
# Slices of a text that is put together

* `Boundary`: an offset stands between two characters, or at an end.

Results:
* `slice?_of_eq`: the slice between the ends of a piece of a text is that piece.
* `Boundary.exists_middle`: from one boundary to a later one there is such a piece.
-/

namespace CanvasScript.Text

variable {s before piece after : String}

/-- The end of a text is a position of every text that begins with it. -/
theorem exists_pos? (h : s = before ++ after) :
    ∃ p : s.Pos, s.pos? ⟨before.utf8ByteSize⟩ = some p ∧
      p.offset.byteIdx = before.utf8ByteSize := by
  subst h
  have hvalid : (⟨before.utf8ByteSize⟩ : String.Pos.Raw).IsValid (before ++ after) :=
    String.Pos.Raw.isValid_rawEndPos.append_right after
  refine ⟨(before ++ after).pos _ hvalid, ?_, rfl⟩
  unfold String.pos? String.Slice.pos?
  rw [dif_pos (String.Pos.Raw.isValidForSlice_eq_true_iff.2 hvalid.toSlice)]
  rfl

/-- The slice between the ends of a piece is the piece. -/
theorem slice?_of_eq (h : s = before ++ piece ++ after) :
    slice? s before.utf8ByteSize (before.utf8ByteSize + piece.utf8ByteSize) = some piece := by
  obtain ⟨p, hp, hpo⟩ := exists_pos? (h.trans (String.append_assoc ..))
  obtain ⟨q, hq, hqo⟩ := exists_pos? h
  rw [String.utf8ByteSize_append] at hq hqo
  have hbytes : s.extract p q = piece := by
    rw [← String.toByteArray_inj, String.toByteArray_extract, hpo, hqo, h]
    simp only [String.toByteArray_append, ← String.size_toByteArray]
    rw [ByteArray.extract_append, ByteArray.extract_append_eq_right rfl rfl,
      ByteArray.extract_eq_empty_iff.2 (by simp), ByteArray.append_empty]
  unfold slice?
  simp only [hp, hq, Nat.le_add_right, if_true, hbytes]

theorem sliceOrEmpty_of_eq (h : s = before ++ piece ++ after) :
    sliceOrEmpty s before.utf8ByteSize (before.utf8ByteSize + piece.utf8ByteSize) = piece := by
  unfold sliceOrEmpty
  rw [slice?_of_eq h]
  rfl

/-! ## Boundaries -/

/-- The offset stands between two characters, or at an end. -/
def Boundary (s : String) (offset : Nat) : Prop :=
  ∃ before after, s = before ++ after ∧ offset = before.utf8ByteSize

theorem boundary_zero (s : String) : Boundary s 0 :=
  ⟨"", s, by simp, rfl⟩

theorem boundary_end (s : String) : Boundary s s.utf8ByteSize :=
  ⟨s, "", by simp, rfl⟩

theorem Boundary.append {s : String} {offset : Nat} (h : Boundary s offset) (t : String) :
    Boundary (s ++ t) offset := by
  obtain ⟨before, after, rfl, hoffset⟩ := h
  exact ⟨before, after ++ t, String.append_assoc .., hoffset⟩

theorem Boundary.push {s : String} {offset : Nat} (h : Boundary s offset) (c : Char) :
    Boundary (s.push c) offset := by
  rw [String.push_eq_append]
  exact h.append _

theorem Boundary.le {s : String} {offset : Nat} (h : Boundary s offset) :
    offset ≤ s.utf8ByteSize := by
  obtain ⟨before, after, rfl, rfl⟩ := h
  rw [String.utf8ByteSize_append]
  exact Nat.le_add_right ..

/-- From one boundary to a later one there is a piece of the text. -/
theorem Boundary.exists_middle {s : String} {a b : Nat} (ha : Boundary s a) (hb : Boundary s b)
    (hab : a ≤ b) : ∃ before middle after,
      s = before ++ middle ++ after ∧ a = before.utf8ByteSize ∧
        b = (before ++ middle).utf8ByteSize := by
  obtain ⟨before, after, hs, rfl⟩ := ha
  obtain ⟨longer, rest, hs', rfl⟩ := hb
  have hlists : before.toList ++ after.toList = longer.toList ++ rest.toList := by
    rw [← String.toList_append, ← String.toList_append, ← hs, ← hs']
  rcases List.append_eq_append_iff.1 hlists with ⟨middle, hlonger, -⟩ | ⟨extra, hbefore, -⟩
  · have hlonger : longer = before ++ String.ofList middle := by
      rw [← String.toList_inj, String.toList_append, String.toList_ofList, hlonger]
    exact ⟨before, String.ofList middle, rest, hlonger ▸ hs', rfl, hlonger ▸ rfl⟩
  · -- The shorter one is not shorter after all, so that nothing lies between them.
    have hbefore : before = longer ++ String.ofList extra := by
      rw [← String.toList_inj, String.toList_append, String.toList_ofList, hbefore]
    have hsize : (String.ofList extra).utf8ByteSize = 0 := by
      rw [hbefore, String.utf8ByteSize_append] at hab
      omega
    rw [String.utf8ByteSize_eq_zero_iff.1 hsize, String.append_empty] at hbefore
    subst hbefore
    exact ⟨before, "", after, by simpa using hs, rfl, by simp⟩

end CanvasScript.Text
