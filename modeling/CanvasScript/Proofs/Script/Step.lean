import CanvasScript.Script.Reading

/-!
# What one character does

The reader of a script goes from state to state, one character at a time. This module says once
what a character can do, so that each invariant of the reader is a short case analysis.

* `Plain`, `plain_spec`: what a character does when nothing is pending.
* `Step`, `step_spec`: what a character does at all. One that does not join those pending settles
  them first (`step_of_not_joins`).
* `State.run`, `readOffsets`: reading without a cursor.

Results:
* `run_append`, `run_invariant`: runs in parts, and what every step keeps.
* `offset_run`: the offset of the reader counts the bytes that it has read.
-/

namespace CanvasScript.Script

/-! ## Characters -/

theorem continuesName_of_startsName {c : Char} (h : startsName c = true) :
    continuesName c = true := by
  simp only [startsName, continuesName, Char.isAlphanum, Bool.or_eq_true] at h ⊢
  rcases h with h | h
  · exact .inl (.inl h)
  · exact .inr h

theorem toNat_lt_of_continuesName {c : Char} (h : continuesName c = true) : c.toNat < 128 := by
  have below : ∀ high : Char, high.toNat < 128 → c.val ≤ high.val → c.toNat < 128 := by
    intro high hhigh hc
    exact Nat.lt_of_le_of_lt (UInt32.le_iff_toNat_le.1 hc) hhigh
  have h : (((c.isUpper || c.isLower) || c.isDigit) || c == '_') = true := h
  rw [Bool.or_eq_true, Bool.or_eq_true, Bool.or_eq_true] at h
  rcases h with ((h | h) | h) | h
  · exact below 'Z' (by decide) (of_decide_eq_true h).2
  · exact below 'z' (by decide) (of_decide_eq_true (Bool.and_eq_true_iff.1 h).2)
  · exact below '9' (by decide) (of_decide_eq_true (Bool.and_eq_true_iff.1 h).2)
  · rw [beq_iff_eq] at h
    subst h
    decide

theorem utf8Size_of_toNat_lt {c : Char} (h : c.toNat < 128) : c.utf8Size = 1 := by
  have hc : c.val ≤ 127 := by
    rw [UInt32.le_iff_toNat_le]
    exact Nat.le_of_lt_succ h
  simp [Char.utf8Size, hc]

theorem utf8Size_of_continuesName {c : Char} (h : continuesName c = true) : c.utf8Size = 1 :=
  utf8Size_of_toNat_lt (toNat_lt_of_continuesName h)

theorem isSpecial_iff {c : Char} :
    isSpecial c = true ↔ c = '$' ∨ c = '[' ∨ c = ']' ∨ c = ';' ∨ c = '\\' := by
  simp [isSpecial, or_assoc]

theorem utf8Size_of_isSpecial {c : Char} (h : isSpecial c = true) : c.utf8Size = 1 := by
  rcases isSpecial_iff.1 h with rfl | rfl | rfl | rfl | rfl <;> decide

theorem not_continuesName_of_isSpecial {c : Char} (h : isSpecial c = true) :
    continuesName c = false := by
  rcases isSpecial_iff.1 h with rfl | rfl | rfl | rfl | rfl <;> decide

theorem ne_nil_of_startsName {letters : List Char} (h : letters.head?.any startsName = true) :
    letters ≠ [] := by
  rintro rfl
  cases h

theorem isEmpty_ofList {letters : List Char} (h : letters ≠ []) :
    (String.ofList letters).isEmpty = false := by
  rw [← Bool.not_eq_true, String.isEmpty_iff, String.ofList_eq_empty_iff]
  exact h

/-! ## Settling what is pending -/

namespace State

@[simp] theorem settle_frames (s : State) : s.settle.frames = s.frames := by
  unfold settle
  split <;> rfl

@[simp] theorem settle_offset (s : State) : s.settle.offset = s.offset := by
  unfold settle
  split <;> rfl

@[simp] theorem settle_pending (s : State) : s.settle.pending = .nothing := by
  unfold settle
  split
  · assumption
  · rfl
  · rfl

theorem settle_of_nothing {s : State} (h : s.pending = .nothing) : s.settle = s := by
  simp [settle, h]

@[simp] theorem settle_settle (s : State) : s.settle.settle = s.settle :=
  settle_of_nothing s.settle_pending

end State

/-! ## One character -/

namespace State

/-- A character made literal by the backslash before it. -/
def unescape (s : State) (c : Char) : State :=
  { s with
    region := s.region.add c.toString ("\\" ++ c.toString)
    pending := .nothing
    offset := s.offset + 1 }

/-- One more letter of a name that begins at `start`. -/
def spell (s : State) (start : Nat) (letters : String) (c : Char) : State :=
  { s with pending := .name start (letters.push c), offset := s.offset + 1 }

/-- A character that waits for the next one. -/
def hold (s : State) (p : Pending) : State :=
  { s with pending := p, offset := s.offset + 1 }

/-- Literal text that changes the number of bare brackets open in the argument. -/
def bracket (s : State) (c : Char) (f : Frame) (fs : List Frame) (bare : Nat) : State :=
  { s.literal c with frames := { f with bare } :: fs }

/-- What a character does when nothing is pending. -/
inductive Plain (s : State) (c : Char) : State → Prop
  | backslash (hc : c = '\\') : Plain s c (s.hold .backslash)
  | dollar (hc : c = '$') : Plain s c (s.hold (.name s.offset ""))
  | outside (hc : c ≠ '\\' ∧ c ≠ '$') (hf : s.frames = []) : Plain s c (s.literal c)
  | inside (hc : c ≠ '\\' ∧ c ≠ '$' ∧ c ≠ '[' ∧ c ≠ ']') (f : Frame) (fs : List Frame)
      (hf : s.frames = f :: fs) (hb : f.bare = 0 → c ≠ ';') : Plain s c (s.literal c)
  | openBare (hc : c = '[') (f : Frame) (fs : List Frame) (hf : s.frames = f :: fs) :
      Plain s c (s.bracket c f fs (f.bare + 1))
  | closeBare (hc : c = ']') (f : Frame) (fs : List Frame) (hf : s.frames = f :: fs)
      (hb : f.bare ≠ 0) : Plain s c (s.bracket c f fs (f.bare - 1))
  | separate (hc : c = ';') (f : Frame) (fs : List Frame) (hf : s.frames = f :: fs)
      (hb : f.bare = 0) : Plain s c (s.separate f fs)
  | close (hc : c = ']') (f : Frame) (fs : List Frame) (hf : s.frames = f :: fs)
      (hb : f.bare = 0) : Plain s c (s.closeCall f fs)

theorem plain_spec (s : State) (c : Char) : Plain s c (s.plain c) := by
  unfold plain
  split
  · rename_i hc
    exact .backslash hc
  split
  · rename_i hc
    exact .dollar hc
  rename_i h₁ h₂
  split
  · rename_i hf
    exact .outside ⟨h₁, h₂⟩ hf
  rename_i f fs hf
  split
  · rename_i hc
    exact .openBare hc f fs hf
  rename_i h₃
  split
  · rename_i hb
    split
    · rename_i hc
      exact .separate hc f fs hf hb
    rename_i h₄
    split
    · rename_i hc
      exact .close hc f fs hf hb
    · rename_i h₅
      exact .inside ⟨h₁, h₂, h₃, h₅⟩ f fs hf fun _ => h₄
  · rename_i hb
    split
    · rename_i hc
      exact .closeBare hc f fs hf hb
    · rename_i h₅
      exact .inside ⟨h₁, h₂, h₃, h₅⟩ f fs hf fun h => absurd h hb

/-- A character that is not special stands for itself everywhere. -/
theorem plain_of_not_special {s : State} {c : Char} (h : isSpecial c = false) :
    s.plain c = s.literal c := by
  have ne : ∀ d, isSpecial d = true → c ≠ d := by
    rintro d hd rfl
    rw [hd] at h
    cases h
  have hp := s.plain_spec c
  generalize s.plain c = s' at hp
  cases hp with
  | backslash hc => exact absurd hc (ne _ (by decide))
  | dollar hc => exact absurd hc (ne _ (by decide))
  | openBare hc => exact absurd hc (ne _ (by decide))
  | closeBare hc => exact absurd hc (ne _ (by decide))
  | separate hc => exact absurd hc (ne _ (by decide))
  | close hc => exact absurd hc (ne _ (by decide))
  | outside | inside => rfl

/-- Only a backslash and a `$` wait for the next character. -/
theorem plain_pending {s : State} {c : Char} (hp : s.pending = .nothing) (h₁ : c ≠ '\\')
    (h₂ : c ≠ '$') : (s.plain c).pending = .nothing := by
  have h := s.plain_spec c
  generalize s.plain c = s' at h
  cases h with
  | backslash hc => exact absurd hc h₁
  | dollar hc => exact absurd hc h₂
  | outside | inside | openBare | closeBare => exact hp
  | separate | close => rfl

/-- What a character does. -/
inductive Step (s : State) (c : Char) : State → Prop
  | plain (h : s.pending.joins c = false) : Step s c (s.settle.plain c)
  | unescape (hp : s.pending = .backslash) (hc : isSpecial c = true) : Step s c (s.unescape c)
  | letter (start : Nat) (letters : String) (hp : s.pending = .name start letters)
      (hc : if letters.isEmpty then startsName c = true else continuesName c = true) :
      Step s c (s.spell start letters c)
  | call (start : Nat) (letters : String) (hp : s.pending = .name start letters)
      (hl : letters ≠ "") (hc : c = '[') (hd : s.frames.length < maxDepth) :
      Step s c (s.openCall ("$" ++ letters) start)

theorem step_of_not_joins {s : State} {c : Char} (h : s.pending.joins c = false) :
    s.step c = .ok (s.settle.plain c) := by
  unfold step
  split
  · rename_i hp
    rw [settle_of_nothing hp]
  · rename_i hp
    rw [hp] at h
    simp only [Pending.joins] at h
    simp [h]
  · rename_i start letters hp
    rw [hp] at h
    simp only [Pending.joins] at h
    by_cases hl : letters.isEmpty
    · simp_all
    · simp_all

theorem step_spec {s s' : State} {c : Char} (h : s.step c = .ok s') : Step s c s' := by
  by_cases hj : s.pending.joins c = true
  · unfold step at h
    split at h
    · rename_i hp
      simp [hp, Pending.joins] at hj
    · rename_i hp
      rw [hp] at hj
      simp only [Pending.joins] at hj
      simp only [hj, if_true, Except.ok.injEq] at h
      exact h ▸ .unescape hp hj
    · rename_i start letters hp
      rw [hp] at hj
      simp only [Pending.joins] at hj
      split at h
      · rename_i hc
        cases h
        refine .letter start letters hp ?_
        by_cases hl : letters.isEmpty <;> simp_all
      · rename_i hc
        have hb : c = '[' ∧ letters.isEmpty = false := by
          by_cases hl : letters.isEmpty <;> simp_all
        rw [if_pos (by simp [hb])] at h
        split at h
        · cases h
        · rename_i hd
          cases h
          refine .call start letters hp ?_ hb.1 (Nat.lt_of_not_le hd)
          rintro rfl
          exact absurd hb.2 (by decide)
  · rw [step_of_not_joins (by simpa using hj)] at h
    cases h
    exact .plain (by simpa using hj)

theorem Step.step_eq {s s' : State} {c : Char} (h : Step s c s') : s.step c = .ok s' := by
  cases h with
  | plain h => exact step_of_not_joins h
  | unescape hp hc => simp [step, hp, hc, State.unescape]
  | letter start letters hp hc =>
    by_cases hl : letters.isEmpty <;> simp_all [step, spell]
  | call start letters hp hl hc hd =>
    have hcontinues : continuesName '[' = false := by decide
    subst hc
    simp [step, hp, hl, hcontinues, Nat.not_le_of_lt hd]

/-! ## Runs -/

/-- The characters one after the other. -/
def run (s : State) : List Char → Except Failure State
  | [] => .ok s
  | c :: cs =>
    match s.step c with
    | .ok s => s.run cs
    | .error e => .error e

@[simp] theorem run_nil (s : State) : s.run [] = .ok s := rfl

theorem run_cons {s s' : State} {c : Char} (h : s.step c = .ok s') (cs : List Char) :
    s.run (c :: cs) = s'.run cs := by
  simp only [run, h]

theorem run_append {s s' : State} {cs : List Char} (h : s.run cs = .ok s') (ds : List Char) :
    s.run (cs ++ ds) = s'.run ds := by
  induction cs generalizing s with
  | nil =>
    cases h
    rfl
  | cons c cs ih =>
    cases hc : s.step c with
    | error e => simp [run, hc] at h
    | ok t =>
      rw [List.cons_append, run_cons hc]
      rw [run_cons hc] at h
      exact ih h

/-- A character is refused only for opening a call that is too deep. -/
theorem step_error {s : State} {c : Char} {e : Failure} (h : s.step c = .error e) :
    ∃ name start, e = .tooDeep name start := by
  unfold step at h
  split at h
  · cases h
  · split at h <;> cases h
  · split at h
    · cases h
    split at h
    · split at h
      · cases h
        exact ⟨_, _, rfl⟩
      · cases h
    · cases h

theorem run_error {s : State} {cs : List Char} {e : Failure} (h : s.run cs = .error e) :
    ∃ name start, e = .tooDeep name start := by
  induction cs generalizing s with
  | nil => cases h
  | cons c cs ih =>
    cases hc : s.step c with
    | error e' =>
      simp only [run, hc, Except.error.injEq] at h
      exact h ▸ step_error hc
    | ok t =>
      rw [run_cons hc] at h
      exact ih h

/-- A run that does not begin with a character joining what is pending settles that first. -/
theorem run_settle {s : State} {c : Char} (h : s.pending.joins c = false) (cs : List Char) :
    s.run (c :: cs) = s.settle.run (c :: cs) := by
  have hs : s.settle.step c = .ok (s.settle.settle.plain c) :=
    step_of_not_joins (by simp [Pending.joins])
  rw [run_cons (step_of_not_joins h), run_cons hs, settle_settle]

/-- The letters behind the first one of a name are read one after the other. -/
theorem run_letters {s : State} (start : Nat) (letters : String) (hl : letters ≠ "")
    (hp : s.pending = .name start letters) {ds : List Char}
    (hd : ∀ d ∈ ds, continuesName d = true) (rest : List Char) :
    s.run (ds ++ rest) =
      ({ s with
        pending := .name start (letters ++ String.ofList ds)
        offset := s.offset + ds.length } : State).run rest := by
  induction ds generalizing s letters with
  | nil => simp [← hp]
  | cons d ds ih =>
    have hc : continuesName d = true := hd d List.mem_cons_self
    have hstep : s.step d = .ok (s.spell start letters d) := by
      simp [step, hp, hl, hc, spell]
    rw [List.cons_append, run_cons hstep,
      ih (letters.push d) (by simp) rfl fun d hd' => hd d (List.mem_cons_of_mem _ hd')]
    have hname : letters.push d ++ String.ofList ds = letters ++ String.ofList (d :: ds) := by
      rw [String.push_eq_append, String.append_assoc, String.ofList_cons]
    have hoffset : s.offset + 1 + ds.length = s.offset + (d :: ds).length := by
      rw [List.length_cons]
      omega
    simp only [spell, hname, hoffset]

/-- A name that was read and may still go on. -/
def named (s : State) (letters : List Char) : State :=
  { s with
    pending := .name s.offset (String.ofList letters)
    offset := s.offset + 1 + letters.length }

/-- A `$` and the letters of a name are read in one go. -/
theorem run_name {s : State} (hp : s.pending = .nothing) {letters : List Char}
    (hs : letters.head?.any startsName = true) (hl : ∀ d ∈ letters, continuesName d = true)
    (rest : List Char) : s.run ('$' :: (letters ++ rest)) = (s.named letters).run rest := by
  cases letters with
  | nil => cases hs
  | cons d ds =>
    have hd : startsName d = true := by simpa using hs
    have hdollar : s.step '$' = .ok (s.hold (.name s.offset "")) := by
      rw [step, hp]
      rfl
    have hfirst : (s.hold (.name s.offset "")).step d =
        .ok ((s.hold (.name s.offset "")).spell s.offset "" d) := by
      simp [step, hold, hd, spell]
    rw [List.cons_append, run_cons hdollar, run_cons hfirst,
      run_letters s.offset (String.singleton d) (by simp) rfl
        fun d hd' => hl d (List.mem_cons_of_mem _ hd')]
    have hoffset : s.offset + 1 + 1 + ds.length = s.offset + 1 + (d :: ds).length := by
      rw [List.length_cons]
      omega
    simp only [spell, hold, named, String.ofList_cons, hoffset]

theorem joins_named (s : State) {letters : List Char} (hl : letters ≠ []) (c : Char) :
    (s.named letters).pending.joins c = (continuesName c || c == '[') := by
  simp [named, Pending.joins, isEmpty_ofList hl]

/-- A `[` behind a name opens a call, unless it would be too deep. -/
theorem step_bracket {s : State} {letters : List Char} (hl : letters ≠ []) :
    (s.named letters).step '[' =
      if maxDepth ≤ s.frames.length then
        .error (.tooDeep ("$" ++ String.ofList letters) s.offset)
      else .ok ((s.named letters).openCall ("$" ++ String.ofList letters) s.offset) := by
  have hcontinues : continuesName '[' = false := by decide
  simp only [step, named, isEmpty_ofList hl, hcontinues]
  rfl

/-- What every step keeps and what holds of the empty run holds of all runs: the characters read
so far come first. -/
theorem run_invariant {P : List Char → State → Prop}
    (step : ∀ cs s c s', P cs s → s.step c = .ok s' → P (cs ++ [c]) s')
    (before : List Char) {cs : List Char} {s s' : State} (hs : P before s) (h : s.run cs = .ok s') :
    P (before ++ cs) s' := by
  induction cs generalizing s before with
  | nil =>
    cases h
    simpa using hs
  | cons c cs ih =>
    cases hc : s.step c with
    | error e => simp [run, hc] at h
    | ok t =>
      rw [run_cons hc] at h
      have := ih (before ++ [c]) (step before s c t hs hc) h
      simpa using this

/-! ## Offsets -/

theorem offset_plain (s : State) (c : Char) : (s.plain c).offset = s.offset + c.utf8Size := by
  have h := s.plain_spec c
  generalize s.plain c = s' at h
  cases h with
  | backslash hc | dollar hc | separate hc | close hc => subst hc; rfl
  | outside | inside | openBare | closeBare => rfl

/-- Every character moves the offset on by its bytes. -/
theorem offset_step {s s' : State} {c : Char} (h : s.step c = .ok s') :
    s'.offset = s.offset + c.utf8Size := by
  cases step_spec h with
  | plain => rw [offset_plain, settle_offset]
  | unescape _ hc => rw [utf8Size_of_isSpecial hc]; rfl
  | letter start letters _ hc =>
    have hc : continuesName c = true := by
      split at hc
      · exact continuesName_of_startsName hc
      · exact hc
    rw [utf8Size_of_continuesName hc]
    rfl
  | call _ _ _ _ hc => subst hc; rfl

/-- The offset of the reader counts the bytes that it has read. -/
theorem offset_run {s s' : State} {cs : List Char} (h : s.run cs = .ok s') :
    s'.offset = s.offset + (String.ofList cs).utf8ByteSize := by
  refine run_invariant (P := fun cs t => t.offset = s.offset + (String.ofList cs).utf8ByteSize)
    (fun cs t c t' ht hc => ?_) [] ?_ h
  · rw [offset_step hc, ht, String.ofList_append, String.utf8ByteSize_append]
    simp [Nat.add_assoc]
  · simp

end State

/-! ## Whole scripts -/

/-- The tree of a script, with byte offsets. -/
def readOffsets (source : String) : Except Failure (List (Node Nat)) := do
  (← ({} : State).run source.toList).finish

/-- The cursor does not change what is read, nor what is refused. -/
theorem Reader.run_cases (source : String) (r : Reader) (cs : List Char) :
    (∃ r', r.run source cs = .ok r' ∧ r.state.run cs = .ok r'.state) ∨
      ∃ e l, r.run source cs = .error (e.fault l) ∧ r.state.run cs = .error e := by
  induction cs generalizing r with
  | nil => exact .inl ⟨r, rfl, rfl⟩
  | cons c cs ih =>
    cases hc : r.state.step c with
    | error e =>
      refine .inr ⟨e, r.cursor.follow source (r.state.requests c), ?_, ?_⟩
      · rw [run, step, hc]
      · rw [State.run, hc]
    | ok s =>
      have hstep : r.step source c = .ok ⟨s, r.cursor.follow source (r.state.requests c),
          r.begun s (r.cursor.follow source (r.state.requests c))⟩ := by
        rw [step, hc]
      rw [run, hstep, State.run_cons hc]
      exact ih _

theorem read_of_run {source : String} {r : Reader}
    (h : ({} : Reader).run source source.toList = .ok r) : read source = r.finish source := by
  rw [read, h]
  rfl

theorem read_cases (source : String) :
    (∃ nodes, readOffsets source = .ok nodes ∧
        read source = .ok (Node.locateAll source nodes Location.start).1) ∨
      ∃ e l, readOffsets source = .error e ∧ read source = .error (e.fault l) := by
  rcases Reader.run_cases source {} source.toList with ⟨r, hr, hs⟩ | ⟨e, l, hr, hs⟩
  · have ho : readOffsets source = r.state.finish := by
      rw [readOffsets, hs]
      rfl
    rw [ho, read_of_run hr, Reader.finish]
    cases r.state.finish with
    | ok nodes => exact .inl ⟨nodes, rfl, rfl⟩
    | error e => exact .inr ⟨e, _, rfl, rfl⟩
  · refine .inr ⟨e, l, ?_, ?_⟩
    · rw [readOffsets, hs]
      rfl
    · rw [read, hr]
      rfl

/-- A script is read with a cursor if it can be read without one. -/
theorem read_of_readOffsets {source : String} {nodes : List (Node Nat)}
    (h : readOffsets source = .ok nodes) :
    read source = .ok (Node.locateAll source nodes Location.start).1 := by
  rcases read_cases source with ⟨nodes', ho, hr⟩ | ⟨e, l, ho, -⟩
  · cases ho.symm.trans h
    exact hr
  · cases ho.symm.trans h

end CanvasScript.Script
