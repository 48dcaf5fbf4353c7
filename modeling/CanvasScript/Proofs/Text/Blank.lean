import CanvasScript.Text.Blank
import Mathlib.Data.List.TakeWhile

/-!
# Blanks at the ends of texts

Results:
* `allBlank_append`, `allBlank_trim`: which texts hold nothing but blanks.
* `trim_of_allBlank`, `trim_padded`: what trimming leaves of a text, and of one with blanks around
  it.
-/

namespace CanvasScript.Text

theorem allBlank_append (s t : String) : allBlank (s ++ t) = (allBlank s && allBlank t) := by
  unfold allBlank
  rw [String.toList_append, List.all_append]

theorem dropWhile_eq_nil_of_all {cs : List Char} (h : cs.all isBlank = true) :
    cs.dropWhile isBlank = [] :=
  List.dropWhile_eq_nil_iff.2 (List.all_eq_true.1 h)

theorem trim_of_allBlank {s : String} (h : allBlank s = true) : trim s = "" := by
  rw [trim, trimChars, dropWhile_eq_nil_of_all h]
  rfl

/-- Dropping the blanks in front leaves all blank what was so before, and nothing else. -/
theorem all_dropWhile (cs : List Char) : (cs.dropWhile isBlank).all isBlank = cs.all isBlank := by
  induction cs with
  | nil => rfl
  | cons c cs ih =>
    by_cases hc : isBlank c = true
    · rw [List.dropWhile_cons_of_pos hc, ih, List.all_cons, hc, Bool.true_and]
    · rw [List.dropWhile_cons_of_neg hc]

theorem allBlank_trim (s : String) : allBlank (trim s) = allBlank s := by
  rw [allBlank, trim, String.toList_ofList, trimChars, List.all_reverse, all_dropWhile,
    List.all_reverse, all_dropWhile, allBlank]

/-- Blanks behind a text do not keep the blanks in front of it. -/
theorem trimChars_append {cs ds : List Char} (h : ds.all isBlank = true) :
    trimChars (cs ++ ds) = trimChars cs := by
  unfold trimChars
  rw [List.dropWhile_append]
  split
  · rename_i hcs
    rw [dropWhile_eq_nil_of_all h, List.isEmpty_iff.1 hcs]
  · rw [List.reverse_append,
      List.dropWhile_append_of_pos (List.all_eq_true.1 (List.all_reverse.trans h))]

theorem append_trimChars {cs ds : List Char} (h : cs.all isBlank = true) :
    trimChars (cs ++ ds) = trimChars ds := by
  rw [trimChars, List.dropWhile_append_of_pos (List.all_eq_true.1 h), trimChars]

/-- Blanks around a text are trimmed away. -/
theorem trim_padded {left right : String} (hl : allBlank left = true)
    (hr : allBlank right = true) (s : String) : trim (left ++ s ++ right) = trim s := by
  rw [trim, String.toList_append, String.toList_append, trimChars_append hr, append_trimChars hl,
    trim]

end CanvasScript.Text
