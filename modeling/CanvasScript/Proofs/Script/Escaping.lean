import CanvasScript.Proofs.Script.Layout
import CanvasScript.Proofs.Script.RoundTrip

/-!
# Escaped text

* `quoted`: the argument that an escaped text is read as.

Results:
* `unescape_escape`: escaping can be undone.
* `gap_escape`: escaped text is one node, unless it is empty.
* `isNormal_quoted`, `respell_quoted`, `depth_quoted`: it can be read wherever it is written, as
  what it is written as.
-/

namespace CanvasScript.Script

variable {π : Type}

/-! ## Escaping -/

theorem unescape_escapeChar (c : Char) (cs : List Char) :
    unescape (escapeChar c ++ cs) = c :: unescape cs := by
  by_cases hc : isSpecial c = true
  · rw [escapeChar, if_pos hc, List.cons_append, List.singleton_append, unescape_special hc]
  · have hne : c ≠ '\\' := by
      rintro rfl
      exact hc (by decide)
    rw [escapeChar, if_neg hc, List.singleton_append, unescape_cons hne]

/-- Escaping can be undone. -/
theorem unescape_escape (s : String) : unescape (escape s).toList = s.toList := by
  rw [escape, String.toList_ofList]
  induction s.toList with
  | nil => rfl
  | cons c cs ih => rw [List.flatMap_cons, unescape_escapeChar, ih]

theorem escape_isEmpty (s : String) : (escape s).isEmpty = s.isEmpty := by
  rw [Bool.eq_iff_iff, String.isEmpty_iff, String.isEmpty_iff, ← String.toList_eq_nil_iff,
    ← String.toList_eq_nil_iff, ← unescape_eq_nil_iff, unescape_escape]

/-- Escaped text is one node, unless it is empty. -/
theorem gap_escape (s : String) :
    (gap (escape s) : List (Node π)) = if s.isEmpty then [] else [.text s] := by
  rw [gap, escape_isEmpty, unescape_escape, String.ofList_toList]

/-! ## Arguments -/

/-- The argument that an escaped text is read as. -/
def quoted (s : String) : Argument Unit :=
  ⟨gap (escape s), escape s, ⟨(), ()⟩⟩

theorem writeAll_gap_escape (s : String) :
    Node.writeAll (gap (escape s) : List (Node π)) = escape s := by
  rw [gap_escape]
  split
  · rename_i h
    rw [Node.writeAll, String.isEmpty_iff.1 h]
    rfl
  · rw [Node.writeAll, Node.writeAll, Node.write, String.append_empty]

theorem respell_quoted (s : String) : (quoted s).respell = quoted s := by
  have hnodes : Node.respellAll (gap (escape s) : List (Node Unit)) = gap (escape s) := by
    rw [gap_escape]
    split <;> rfl
  rw [quoted, Argument.respell, hnodes, writeAll_gap_escape]

theorem isNormal_quoted (s : String) : (quoted s).isNormal = true := by
  rw [quoted, Argument.isNormal, gap_escape]
  split
  · rfl
  · rename_i h
    simpa [Node.allNormal, Node.isNormal, Node.mayPrecede] using h

theorem depth_quoted (s : String) : (quoted s).depth = 0 := by
  rw [quoted, Argument.depth, gap_escape]
  split <;> rfl

end CanvasScript.Script
