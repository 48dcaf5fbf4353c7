import CanvasScript.Proofs.Script.Positions
import CanvasScript.Proofs.Script.RoundTrip
import CanvasScript.Proofs.Text.Case

/-!
# Names in a script

Which names a command may have and which names the reader takes for calls is decided in two places,
for a whole text and character by character. Here they are shown to decide alike.

* `State.Proper`: the names that the reader holds are all names that a command may have.

Results:
* `isName_of_sameFold`: a name stays one in every spelling.
* `isName_of_mem_names`: the calls of a script, with brackets or without, have such names.
* `readOffsets_brackets`: such a name with brackets behind it is read as one call.
* `isName_iff_read`: hence it is only these texts that are read so.
-/

namespace CanvasScript.Script

open Command (Definition)

variable {π ρ : Type} {name : String}

/-- A `$`, a letter that can begin a name, and letters that can go on with it. -/
theorem isName_iff {letters : String} :
    Definition.isName ("$" ++ letters) = true ↔
      letters.toList.head?.any startsName = true ∧
        ∀ c ∈ letters.toList, continuesName c = true := by
  have hdollar : "$".toList = ['$'] := rfl
  unfold Definition.isName
  rw [String.toList_append, hdollar, List.singleton_append]
  cases letters.toList with
  | nil => simp
  | cons c cs => simp

/-- A name stays one when a letter is added. -/
theorem isName_push {letters : String} {c : Char}
    (h : letters ≠ "" → Definition.isName ("$" ++ letters) = true)
    (hc : if letters.isEmpty then startsName c = true else continuesName c = true) :
    Definition.isName ("$" ++ letters.push c) = true := by
  rw [isName_iff, String.toList_push]
  by_cases hl : letters = ""
  · subst hl
    have hc : startsName c = true := hc
    simpa using ⟨hc, continuesName_of_startsName hc⟩
  · rw [if_neg (by simpa using hl)] at hc
    obtain ⟨hhead, hall⟩ := isName_iff.1 (h hl)
    refine ⟨?_, ?_⟩
    · rw [List.head?_append]
      cases hfirst : letters.toList.head? with
      | none =>
        rw [hfirst] at hhead
        cases hhead
      | some d =>
        rw [hfirst] at hhead
        exact hhead
    · exact List.forall_mem_append.2 ⟨hall, List.forall_mem_singleton.2 hc⟩

/-- Names consist of ASCII characters. -/
theorem isAscii_of_isName (h : Definition.isName name = true) : Text.IsAscii name := by
  obtain ⟨letters, rfl, -, hl⟩ := exists_letters h
  intro c hc
  rw [String.toList_append, String.toList_ofList (l := letters), List.mem_append] at hc
  rcases hc with hc | hc
  · rw [List.mem_singleton.1 hc]
    decide
  · exact toNat_lt_of_continuesName (hl c hc)

/-- A letter whose case is changed by folding begins a name, before and after it. -/
theorem foldChar_cases (c : Char) :
    Text.foldChar c = c ∨ startsName c = true ∧ startsName (Text.foldChar c) = true := by
  have hcapital : ∀ n < 91, 65 ≤ n →
      startsName (Char.ofNat n) = true ∧ startsName (Text.foldChar (Char.ofNat n)) = true := by
    decide
  refine Text.foldChar_induction (R := fun c d => d = c ∨ startsName c = true ∧ startsName d = true)
    (fun _ => .inl rfl) (fun n hn hle => .inr (hcapital n hn hle)) c

theorem startsName_foldChar (c : Char) : startsName (Text.foldChar c) = startsName c := by
  rcases foldChar_cases c with h | ⟨h, h'⟩
  · rw [h]
  · rw [h, h']

theorem continuesName_foldChar (c : Char) : continuesName (Text.foldChar c) = continuesName c := by
  rcases foldChar_cases c with h | ⟨h, h'⟩
  · rw [h]
  · rw [continuesName_of_startsName h, continuesName_of_startsName h']

theorem foldChar_eq_dollar {c : Char} : Text.foldChar c = '$' ↔ c = '$' := by
  rcases foldChar_cases c with h | ⟨h, h'⟩
  · rw [h]
  · have hne : ∀ d, startsName d = true → d ≠ '$' := by
      rintro d hd rfl
      cases hd
    exact iff_of_false (hne _ h') (hne _ h)

/-- Whether a text is a name does not depend on the case of its ASCII letters. -/
theorem isName_foldAscii (name : String) :
    Definition.isName (Text.foldAscii name) = Definition.isName name := by
  unfold Definition.isName Text.foldAscii
  rw [String.toList_ofList]
  cases name.toList with
  | nil => rfl
  | cons c cs =>
    by_cases hc : c = '$'
    · subst hc
      cases cs <;>
        simp [foldChar_eq_dollar.2, startsName_foldChar, continuesName_foldChar, Function.comp_def]
    · have hfold := mt foldChar_eq_dollar.1 hc
      cases cs <;> simp [hc, hfold]

theorem isName_of_sameFold {spelling : String} (h : Definition.isName name = true)
    (hs : Text.sameFold name spelling = true) : Definition.isName spelling = true := by
  have hfold : Text.foldAscii name = Text.foldAscii spelling := beq_iff_eq.1 hs
  rw [← isName_foldAscii, ← hfold, isName_foldAscii, h]

/-! ## Names that are read -/

namespace State

/-- The names of the calls that the reader has finished, has opened or is about to read. -/
structure Proper (s : State) : Prop where
  pending : ∀ start letters, s.pending = .name start letters → letters ≠ "" →
    Definition.isName ("$" ++ letters) = true
  frames : ∀ f ∈ s.frames, Definition.isName f.name = true
  parts : ∀ p ∈ s.parts, ∀ name, p.name? = some name → Definition.isName name = true

theorem proper_initial : Proper {} where
  pending _ _ h := by cases h
  frames _ h := by cases h
  parts _ h := by cases h

variable {s s' : State}

theorem proper_settle (h : s.Proper) : s.settle.Proper where
  pending start letters hs := by
    rw [settle_pending] at hs
    cases hs
  frames := by
    rw [settle_frames]
    exact h.frames
  parts p hp name hname := by
    rw [parts_settle, List.mem_append] at hp
    rcases hp with hp | hp
    · exact h.parts p hp name hname
    · unfold settled at hp
      split at hp
      · rename_i start letters hs
        split at hp
        · cases hp
        · rename_i hl
          rw [List.mem_singleton.1 hp] at hname
          cases hname
          exact h.pending start letters hs (by simpa using hl)
      · cases hp

/-- What is finished has the name of an open call, or none. -/
theorem names_finishes (h : s.Proper) {new : List (Script.Part Nat)} (hn : s.Finishes new) :
    ∀ p ∈ new, ∀ name, p.name? = some name → Definition.isName name = true := by
  intro p hp name hname
  cases hn with
  | nothing => cases hp
  | argument f fs hf =>
    rw [List.mem_singleton.1 hp] at hname
    cases hname
  | emptyCall f fs hf =>
    rw [List.mem_singleton.1 hp] at hname
    cases hname
    exact h.frames f (hf ▸ List.mem_cons_self)
  | call f fs hf hb arguments =>
    simp only [List.mem_cons, List.not_mem_nil, or_false] at hp
    rcases hp with rfl | rfl
    · cases hname
    · cases hname
      exact h.frames f (hf ▸ List.mem_cons_self)

theorem proper_plain (h : s.Proper) (hs : s.Founded) (hp : s.pending = .nothing) (c : Char) :
    (s.plain c).Proper := by
  obtain ⟨new, hn, hparts⟩ := parts_plain hs c
  have hframes := h.frames
  refine ⟨fun start letters hq hl => ?_, ?_, fun p hp => ?_⟩
  · have hplain := s.plain_spec c
    generalize s.plain c = s' at hplain hq
    cases hplain with
    | backslash => cases hq
    | dollar =>
      cases hq
      exact absurd rfl hl
    | outside | inside | openBare | closeBare => cases hp.symm.trans hq
    | separate | close => cases hq
  · have hplain := s.plain_spec c
    generalize s.plain c = s' at hplain
    cases hplain with
    | backslash | dollar | outside | inside => exact hframes
    | openBare hc f fs hf | closeBare hc f fs hf | separate hc f fs hf =>
      rw [hf] at hframes
      exact List.forall_mem_cons.2 (List.forall_mem_cons.1 hframes)
    | close hc f fs hf =>
      rw [hf] at hframes
      exact (List.forall_mem_cons.1 hframes).2
  · rw [hparts, List.mem_append] at hp
    rcases hp with hp | hp
    · exact h.parts p hp
    · exact names_finishes h hn p hp

theorem proper_step (h : s.Proper) (hs : s.Founded) {c : Char} (hstep : s.step c = .ok s') :
    s'.Proper := by
  cases step_spec hstep with
  | plain => exact proper_plain (proper_settle h) (founded_settle hs) s.settle_pending c
  | unescape => exact ⟨nofun, h.frames, h.parts⟩
  | letter start letters hp hc =>
    refine ⟨fun start' letters' hq _ => ?_, h.frames, h.parts⟩
    cases hq
    exact isName_push (h.pending start letters hp) hc
  | call start letters hp hl =>
    refine ⟨nofun, List.forall_mem_cons.2 ⟨h.pending start letters hp hl, h.frames⟩, ?_⟩
    rw [parts_openCall]
    exact h.parts

/-- Every state that is reached from the beginning. -/
theorem proper_run {cs : List Char} (h : ({} : State).run cs = .ok s) : s.Proper := by
  have hrun := run_invariant (P := fun _ s => s.Founded ∧ s.Proper)
    (fun _ _ _ _ hs hc => ⟨founded_step hs.1 hc, proper_step hs.2 hs.1 hc⟩) []
    ⟨fun _ => rfl, proper_initial⟩ h
  exact hrun.2

end State

theorem Part.name?_map (f : π → ρ) (p : Script.Part π) : (p.map f).name? = p.name? := by
  cases p <;> rfl

/-- Names do not depend on positions. -/
theorem Node.names_mapAll (f : π → ρ) (ns : List (Node π)) :
    Node.names (Node.mapAll f ns) = Node.names ns := by
  unfold Node.names
  rw [Node.partsAll_map, List.filterMap_map]
  exact congrArg (List.filterMap · _) (funext fun p => Part.name?_map f p)

/-- All calls of a script have names that a command may have. -/
theorem isName_of_mem_names {source : String} {nodes : List (Node Location)}
    (h : read source = .ok nodes) (hn : name ∈ Node.names nodes) :
    Definition.isName name = true := by
  obtain ⟨s, hr, hf⟩ := readOffsets_ok (mapAll_offset_read h)
  have hproper := State.proper_settle (State.proper_run hr)
  rw [← Node.names_mapAll (·.offset), Node.names, State.parts_finish hf] at hn
  obtain ⟨p, hp, hname⟩ := List.mem_filterMap.1 hn
  exact hproper.parts p hp name hname

/-! ## Names with brackets behind them -/

/-- A name with brackets behind it is read as one call. -/
theorem readOffsets_brackets (h : Definition.isName name = true) :
    readOffsets (name ++ "[]") = .ok [.call name [] ⟨0, name.utf8ByteSize + 2⟩] := by
  obtain ⟨letters, rfl, hs, hl⟩ := exists_letters h
  have hne := ne_nil_of_startsName hs
  have htext : ("$" ++ String.ofList letters ++ "[]").toList = '$' :: (letters ++ ['[', ']']) := by
    simp
  let named : State := ({} : State).named letters
  have hopen : named.step '[' = .ok (named.openCall ("$" ++ String.ofList letters) 0) :=
    State.step_bracket hne
  have hclose : (named.openCall ("$" ++ String.ofList letters) 0).step ']' =
      .ok ((named.openCall ("$" ++ String.ofList letters) 0).closeCall
        { outer := {}, name := "$" ++ String.ofList letters, start := 0,
          opened := named.offset + 1 } []) := rfl
  have hrun := State.run_name (s := {}) rfl hs hl ['[', ']']
  rw [State.run_cons hopen, State.run_cons hclose, State.run_nil, ← htext] at hrun
  have hoffset : named.offset + 1 + 1 = ("$" ++ String.ofList letters).utf8ByteSize + 2 := by
    have h := State.offset_run hrun
    rw [String.ofList_toList, String.utf8ByteSize_append] at h
    exact h.trans (Nat.zero_add _)
  rw [readOffsets_of_run hrun, ← hoffset]
  rfl

/-- A text with brackets behind it is read as one call of that name exactly if a command may have
it for a name. -/
theorem isName_iff_read :
    Definition.isName name = true ↔ ∃ span, read (name ++ "[]") = .ok [.call name [] span] := by
  constructor
  · intro h
    have hread := read_of_readOffsets (readOffsets_brackets h)
    exact ⟨_, hread⟩
  · rintro ⟨span, h⟩
    exact isName_of_mem_names h (List.mem_singleton.2 rfl)

end CanvasScript.Script
