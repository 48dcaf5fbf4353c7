/-!
# Slices of a text by byte offset

* `slice?`: the part of a text between two byte offsets; `none` unless both offsets stand between
  characters, in order and within the text.
* `sliceOrEmpty`: the same, with the empty text where there is none.
-/

namespace CanvasScript.Text

/-- The text between two byte offsets. -/
def slice? (s : String) (start stop : Nat) : Option String :=
  match s.pos? ⟨start⟩, s.pos? ⟨stop⟩ with
  | some p, some q => if start ≤ stop then some (s.extract p q) else none
  | _, _ => none

/-- The text between two byte offsets, empty if they do not delimit any. -/
def sliceOrEmpty (s : String) (start stop : Nat) : String :=
  (slice? s start stop).getD ""

end CanvasScript.Text
