import CanvasScript.Proofs.Script.Partition
import CanvasScript.Proofs.Text.Slice

/-!
# What the cursor is asked for

While a script is read, the offsets of its calls and arguments are located one after the other. The
cursor finds the right lines and columns only if it is never asked for the inside of a character,
and it counts every character once only if it is never asked for an offset that lies behind it.

* `State.lastRequests`: the offsets that are located at the end of a script.
* `asked`: all offsets in the order in which they are located, up to where reading stops.
* `State.Placed`: what the reader holds stands where it has been read.
* `Climbs`: offsets, none of which lies behind the one before it.

Results:
* `State.climbs_requests`: what a character asks for lies between the offsets that could be asked
  for before and those that can be asked for behind it.
* `climbs_asked`: none of the offsets lies behind the one before it.
* `boundary_of_mem_asked`: all of them are boundaries.
-/

namespace CanvasScript.Script

open Text (Boundary)

/-! ## Requests -/

namespace State

/-- What is located at the end of a script: the end of the argument that is left open, if any. -/
def lastRequests (s : State) : List Nat :=
  s.settling ++ if s.frames.isEmpty then [] else s.waiting ++ [s.offset]

/-- What is located from a state on, up to the end of a script or to the call that is too deep. -/
def asked (s : State) : List Char → List Nat
  | [] => s.lastRequests
  | c :: cs =>
    s.requests c ++
      match s.step c with
      | .ok s' => s'.asked cs
      | .error _ => []

end State

/-- The offsets that are located while a script is read, in order. -/
def asked (source : String) : List Nat :=
  ({} : State).asked source.toList

/-! ## Places -/

namespace State

variable {s s' : State} {c : Char}

/-- What the reader holds stands where it has been read; nothing is said of literal text. -/
structure Placed (s : State) : Prop where
  frames : framesLie s.frames
  offset : s.offset =
    base s.frames + s.region.source.utf8ByteSize + s.pending.text.utf8ByteSize
  pending : ∀ start letters, s.pending = .name start letters →
    start = base s.frames + s.region.source.utf8ByteSize

theorem Lies.placed (h : s.Lies) : s.Placed :=
  ⟨h.frames, h.offset, h.pending⟩

theorem placed_settle (h : s.Placed) : s.settle.Placed where
  frames := by
    rw [settle_frames]
    exact h.frames
  offset := by
    rw [settle_offset, settle_frames, settle_pending, source_settle, String.utf8ByteSize_append,
      h.offset]
    simp [Pending.text, Nat.add_assoc]
  pending start letters hp := by
    rw [settle_pending] at hp
    cases hp

/-- The argument being read begins at or before the reader. -/
theorem Placed.base_le (h : s.Placed) : base s.frames + s.region.source.utf8ByteSize ≤ s.offset := by
  rw [h.offset]
  exact Nat.le_add_right ..

theorem waiting_of_base_lt (h : base s.frames < s.offset) : s.waiting = [] := by
  unfold waiting
  split
  · rfl
  · rename_i f fs hf
    rw [hf, base_cons] at h
    simp [Nat.ne_of_lt h]

/-- Where something is pending, an argument has begun. -/
theorem waiting_of_pending (h : s.Placed) (hp : s.pending ≠ .nothing) : s.waiting = [] := by
  have hsize : 0 < s.pending.text.utf8ByteSize := by
    cases hs : s.pending with
    | nothing => exact absurd hs hp
    | backslash => decide
    | name start letters =>
      rw [Pending.text, String.utf8ByteSize_append]
      exact Nat.add_pos_left (by decide) _
  have hoffset := h.offset
  exact waiting_of_base_lt (by omega)

theorem eq_offset_of_mem_waiting {o : Nat} (h : o ∈ s.waiting) : o = s.offset := by
  unfold waiting at h
  split at h
  · cases h
  · split at h
    · rename_i hwait
      rw [Bool.and_eq_true, beq_iff_eq] at hwait
      rw [List.mem_singleton.1 h, hwait.2]
    · cases h

theorem waiting_settle (s : State) : s.settle.waiting = s.waiting := by
  unfold waiting
  rw [settle_frames, settle_offset]

/-! ## What a character asks for -/

theorem requests_of_not_joins (h : s.pending.joins c = false) :
    s.requests c = s.settling ++ s.settle.plainRequests c := by
  rw [requests, h, if_neg Bool.false_ne_true]

theorem requests_of_letter {start : Nat} {letters : String} (hp : s.pending = .name start letters)
    (hc : if letters.isEmpty then startsName c = true else continuesName c = true) :
    s.requests c = [] := by
  have hjoins : s.pending.joins c = true := by
    rw [hp, Pending.joins]
    split at hc <;> simp_all
  have hne : c ≠ '[' := by
    rintro rfl
    split at hc <;> cases hc
  rw [requests, if_pos hjoins, hp]
  exact if_neg hne

theorem requests_of_bracket {start : Nat} {letters : String} (hp : s.pending = .name start letters)
    (hl : letters ≠ "") : s.requests '[' = [start] := by
  have hjoins : s.pending.joins '[' = true := by
    rw [hp, Pending.joins, if_neg (by simpa using hl)]
    rfl
  rw [requests, if_pos hjoins, hp]
  exact if_pos rfl

theorem requests_of_unescape (hp : s.pending = .backslash) (hc : isSpecial c = true) :
    s.requests c = [] := by
  rw [requests, hp, Pending.joins, if_pos hc]

/-- For a call that is too deep its start is located. -/
theorem requests_of_error {e : Failure} (h : s.step c = .error e) :
    ∃ name start letters, s.pending = .name start letters ∧ e = .tooDeep name start ∧
      s.requests c = [start] := by
  unfold step at h
  split at h
  · cases h
  · split at h <;> cases h
  · rename_i start letters hp
    split at h
    · cases h
    split at h
    · rename_i hc
      split at h
      · cases h
        rw [Bool.and_eq_true, decide_eq_true_eq] at hc
        obtain ⟨rfl, hl⟩ := hc
        exact ⟨_, _, letters, hp, rfl, requests_of_bracket hp (by simpa using hl)⟩
      · cases h
    · cases h

theorem plainRequests_of_literal
    (h : ∀ f fs, s.frames = f :: fs → f.bare = 0 → c ≠ ']' ∧ c ≠ ';') :
    s.plainRequests c = s.waiting := by
  unfold plainRequests
  split
  · rename_i hf
    rw [waiting, hf]
  · rename_i f fs hf
    rw [if_neg fun ⟨hb, hc⟩ => (h f fs hf hb).1 hc, if_neg fun ⟨hb, hc⟩ => (h f fs hf hb).2 hc]

theorem plainRequests_of_separate {f : Frame} {fs : List Frame} (hf : s.frames = f :: fs)
    (hb : f.bare = 0) : s.plainRequests ';' = s.waiting ++ [s.offset, s.offset + 1] := by
  simp [plainRequests, hf, hb]

theorem plainRequests_of_close {f : Frame} {fs : List Frame} (hf : s.frames = f :: fs)
    (hb : f.bare = 0) : s.plainRequests ']' =
      if s.waiting.isEmpty then [s.offset, s.offset + 1] else [s.offset + 1] := by
  simp [plainRequests, hf, hb]

theorem of_mem_plainRequests {o : Nat} (h : o ∈ s.plainRequests c) :
    o = s.offset ∨ o = s.offset + c.utf8Size := by
  have hwaiting : ∀ o ∈ s.waiting, o = s.offset := fun _ => eq_offset_of_mem_waiting
  have hsize : ']'.utf8Size = 1 ∧ ';'.utf8Size = 1 := by decide
  unfold plainRequests at h
  grind

theorem of_mem_settling {o : Nat} (h : o ∈ s.settling) :
    (∃ letters, s.pending = .name o letters) ∨ o = s.offset := by
  unfold settling at h
  grind

/-- A character asks for the start of a pending name or for one of its own ends. -/
theorem of_mem_requests {o : Nat} (h : o ∈ s.requests c) :
    (∃ letters, s.pending = .name o letters) ∨ o = s.offset ∨ o = s.offset + c.utf8Size := by
  by_cases hj : s.pending.joins c = true
  · unfold requests at h
    rw [if_pos hj] at h
    split at h
    · rename_i start letters hp
      split at h
      · rw [List.mem_singleton.1 h]
        exact .inl ⟨letters, hp⟩
      · cases h
    · cases h
  · rw [requests_of_not_joins (Bool.eq_false_iff.2 hj), List.mem_append] at h
    rcases h with h | h
    · rcases of_mem_settling h with hp | ho
      · exact .inl hp
      · exact .inr (.inl ho)
    · have ho := of_mem_plainRequests h
      rw [settle_offset] at ho
      exact .inr ho

theorem of_mem_lastRequests {o : Nat} (h : o ∈ s.lastRequests) :
    (∃ letters, s.pending = .name o letters) ∨ o = s.offset := by
  have hwaiting : ∀ o ∈ s.waiting, o = s.offset := fun _ => eq_offset_of_mem_waiting
  rw [lastRequests, List.mem_append] at h
  rcases h with h | h
  · exact of_mem_settling h
  · grind

end State

/-! ## Order -/

/-- Offsets between two others, none of which lies behind the one before it. -/
def Climbs : Nat → List Nat → Nat → Prop
  | low, [], high => low ≤ high
  | low, o :: os, high => low ≤ o ∧ Climbs o os high

namespace Climbs

variable {low low' mid high high' : Nat} {os qs : List Nat}

theorem le (h : Climbs low os high) : low ≤ high := by
  induction os generalizing low with
  | nil => exact h
  | cons o os ih => exact Nat.le_trans h.1 (ih h.2)

theorem mono (h : Climbs low os high) (hl : low' ≤ low) (hh : high ≤ high') :
    Climbs low' os high' := by
  induction os generalizing low low' with
  | nil => exact Nat.le_trans (Nat.le_trans hl h) hh
  | cons o os ih => exact ⟨Nat.le_trans hl h.1, ih h.2 (Nat.le_refl o)⟩

theorem append (ho : Climbs low os mid) (hq : Climbs mid qs high) : Climbs low (os ++ qs) high := by
  induction os generalizing low with
  | nil => exact hq.mono ho (Nat.le_refl high)
  | cons o os ih => exact ⟨ho.1, ih ho.2⟩

/-- Whatever stands behind some of them lies at or behind the last one. -/
theorem getLastD_le {o : Nat} (h : Climbs low (os ++ o :: qs) high) : os.getLastD low ≤ o := by
  induction os generalizing low with
  | nil => exact h.1
  | cons p os ih =>
    rw [List.getLastD_cons]
    exact ih h.2

end Climbs

namespace State

variable {s s' : State} {c : Char}

/-- The first offset that may still be located. -/
def floor (s : State) : Nat :=
  match s.pending with
  | .name start _ => start
  | _ => s.offset

theorem floor_of_name {start : Nat} {letters : String} (h : s.pending = .name start letters) :
    s.floor = start := by
  rw [floor, h]

theorem floor_of_nothing (h : s.pending = .nothing) : s.floor = s.offset := by
  rw [floor, h]

theorem floor_literal (h : s.pending = .nothing) (c : Char) :
    (s.literal c).floor = s.offset + c.utf8Size :=
  floor_of_nothing (s := s.literal c) h

theorem floor_bracket (h : s.pending = .nothing) (c : Char) (f : Frame) (fs : List Frame)
    (bare : Nat) : (s.bracket c f fs bare).floor = s.offset + c.utf8Size :=
  floor_of_nothing (s := s.bracket c f fs bare) h

theorem Placed.floor_le (h : s.Placed) : s.floor ≤ s.offset := by
  unfold floor
  split
  · rename_i start letters hp
    rw [h.pending start letters hp]
    exact h.base_le
  · exact Nat.le_refl _

theorem climbs_waiting (s : State) : Climbs s.offset s.waiting s.offset := by
  have hmem : ∀ o ∈ s.waiting, o = s.offset := fun _ => eq_offset_of_mem_waiting
  unfold waiting at hmem ⊢
  split
  · exact Nat.le_refl _
  · split
    · simp_all [Climbs]
    · exact Nat.le_refl _

theorem climbs_settling (h : s.Placed) : Climbs s.floor s.settling s.offset := by
  have hfloor := h.floor_le
  unfold settling
  split
  · rename_i start letters hp
    rw [floor_of_name hp] at hfloor ⊢
    split
    · exact hfloor
    · exact ⟨Nat.le_refl _, hfloor, Nat.le_refl _⟩
  · exact hfloor

theorem climbs_plainRequests (hp : s.pending = .nothing) (c : Char) :
    Climbs s.offset (s.plainRequests c) (s.plain c).floor := by
  have hliteral {high : Nat} (hh : s.offset ≤ high)
      (h : ∀ f fs, s.frames = f :: fs → f.bare = 0 → c ≠ ']' ∧ c ≠ ';') :
      Climbs s.offset (s.plainRequests c) high := by
    rw [plainRequests_of_literal h]
    exact s.climbs_waiting.mono (Nat.le_refl _) hh
  have hplain := s.plain_spec c
  generalize s.plain c = s' at hplain
  cases hplain with
  | backslash hc => exact hliteral (Nat.le_succ _) (by simp [hc])
  | dollar hc => exact hliteral (Nat.le_refl _) (by simp [hc])
  | outside hc hf =>
    rw [floor_literal hp]
    exact hliteral (Nat.le_add_right ..) (by simp [hf])
  | inside hc f fs hf hb =>
    rw [floor_literal hp]
    refine hliteral (Nat.le_add_right ..) fun f' fs' hf' hb' => ⟨hc.2.2.2, hb ?_⟩
    cases hf.symm.trans hf'
    exact hb'
  | openBare hc f fs hf =>
    rw [floor_bracket hp]
    exact hliteral (Nat.le_add_right ..) (by simp [hc])
  | closeBare hc f fs hf hb =>
    rw [floor_bracket hp]
    refine hliteral (Nat.le_add_right ..) fun f' fs' hf' hb' => ?_
    cases hf.symm.trans hf'
    exact absurd hb' hb
  | separate hc f fs hf hb =>
    subst hc
    rw [plainRequests_of_separate hf hb, floor_of_nothing rfl]
    exact s.climbs_waiting.append ⟨Nat.le_refl _, Nat.le_succ _, Nat.le_refl _⟩
  | close hc f fs hf hb =>
    subst hc
    rw [plainRequests_of_close hf hb, floor_of_nothing rfl]
    split
    · exact ⟨Nat.le_refl _, Nat.le_succ _, Nat.le_refl _⟩
    · exact ⟨Nat.le_succ _, Nat.le_refl _⟩

theorem climbs_requests (h : s.Placed) (hs : s.step c = .ok s') :
    Climbs s.floor (s.requests c) s'.floor := by
  cases step_spec hs with
  | plain hj =>
    rw [requests_of_not_joins hj]
    refine (climbs_settling h).append ?_
    rw [← settle_offset]
    exact climbs_plainRequests s.settle_pending c
  | unescape hp hc =>
    rw [requests_of_unescape hp hc, floor_of_nothing (s := s.unescape c) rfl]
    exact Nat.le_succ_of_le h.floor_le
  | letter start letters hp hc =>
    rw [requests_of_letter hp hc, floor_of_name hp]
    exact Nat.le_refl _
  | call start letters hp hl hc =>
    subst hc
    have hfloor := h.floor_le
    rw [floor_of_name hp] at hfloor
    rw [requests_of_bracket hp hl, floor_of_name hp, floor_of_nothing rfl]
    exact ⟨Nat.le_refl _, Nat.le_succ_of_le hfloor⟩

theorem climbs_lastRequests (h : s.Placed) : Climbs s.floor s.lastRequests s.offset := by
  refine (climbs_settling h).append ?_
  split
  · exact Nat.le_refl _
  · exact s.climbs_waiting.append ⟨Nat.le_refl _, Nat.le_refl _⟩

/-- None of the offsets that are located lies behind the one before it. -/
theorem climbs_asked (h : s.Lies) (hf : s.Founded) (cs : List Char) :
    Climbs s.floor (s.asked cs) (s.offset + (String.ofList cs).utf8ByteSize) := by
  induction cs generalizing s with
  | nil => exact (climbs_lastRequests h.placed).mono (Nat.le_refl _) (Nat.le_add_right ..)
  | cons c cs ih =>
    rw [asked]
    cases hs : s.step c with
    | error e =>
      obtain ⟨name, start, letters, hp, -, hr⟩ := requests_of_error hs
      have hfloor := h.placed.floor_le
      rw [floor_of_name hp] at hfloor
      rw [hr, floor_of_name hp]
      exact ⟨Nat.le_refl _, Nat.le_add_right_of_le hfloor⟩
    | ok s' =>
      refine (climbs_requests h.placed hs).append ((ih (lies_step h hf hs) (founded_step hf hs)).mono
        (Nat.le_refl _) ?_)
      rw [offset_step hs, String.ofList_cons, String.utf8ByteSize_append,
        String.utf8ByteSize_singleton, Nat.add_assoc]

/-! ## Boundaries -/

/-- A name that is pending has been pending before, or has just begun. -/
theorem pending_step (hs : s.step c = .ok s') {start : Nat} {letters : String}
    (hp : s'.pending = .name start letters) :
    start = s.offset ∨ ∃ letters, s.pending = .name start letters := by
  cases step_spec hs with
  | plain =>
    have hsettled := s.settle_pending
    have hplain := s.settle.plain_spec c
    generalize s.settle.plain c = s' at hplain hp
    cases hplain with
    | backslash | separate | close => cases hp
    | dollar =>
      cases hp
      exact .inl s.settle_offset
    | outside | inside | openBare | closeBare => cases hsettled.symm.trans hp
  | unescape => cases hp
  | letter start' letters' hp' =>
    cases hp
    exact .inr ⟨letters', hp'⟩
  | call => cases hp

/-- All offsets that are located are boundaries of what has been read or is read then. -/
theorem boundary_of_mem_asked_from {text : String} (ho : s.offset = text.utf8ByteSize)
    (hp : ∀ start letters, s.pending = .name start letters → Boundary text start)
    {cs : List Char} : ∀ o ∈ s.asked cs, Boundary (text ++ String.ofList cs) o := by
  induction cs generalizing s text with
  | nil =>
    intro o hmem
    refine Boundary.append ?_ _
    rcases of_mem_lastRequests hmem with ⟨letters, hname⟩ | rfl
    · exact hp o letters hname
    · exact ho ▸ Text.boundary_end text
  | cons c cs ih =>
    have hread : text ++ String.ofList (c :: cs) = text.push c ++ String.ofList cs := by
      rw [String.ofList_cons, ← String.append_assoc, String.push_eq_append]
    have hsize : (text.push c).utf8ByteSize = s.offset + c.utf8Size := by
      rw [String.utf8ByteSize_push, ho]
    intro o hmem
    rw [asked, List.mem_append] at hmem
    rw [hread]
    rcases hmem with hmem | hmem
    · refine Boundary.append ?_ _
      rcases of_mem_requests hmem with ⟨letters, hname⟩ | rfl | rfl
      · exact (hp o letters hname).push c
      · exact (ho ▸ Text.boundary_end text).push c
      · exact hsize ▸ Text.boundary_end (text.push c)
    · cases hs : s.step c with
      | error e =>
        rw [hs] at hmem
        cases hmem
      | ok s' =>
        rw [hs] at hmem
        refine ih ((offset_step hs).trans hsize.symm) (fun start letters hname => ?_) o hmem
        rcases pending_step hs hname with rfl | ⟨letters', hname'⟩
        · exact (ho ▸ Text.boundary_end text).push c
        · exact (hp start letters' hname').push c

end State

/-! ## The whole script -/

/-- All offsets that are located are boundaries. -/
theorem boundary_of_mem_asked {source : String} : ∀ o ∈ asked source, Boundary source o := by
  have hmem : ∀ o ∈ asked source, Boundary ("" ++ String.ofList source.toList) o :=
    State.boundary_of_mem_asked_from rfl fun _ _ hp => by cases hp
  rwa [String.ofList_toList, String.empty_append] at hmem

/-- They do not go back. -/
theorem climbs_asked (source : String) : Climbs 0 (asked source) source.utf8ByteSize := by
  have hclimbs := State.climbs_asked State.lies_initial (fun _ => rfl) source.toList
  rwa [String.ofList_toList, Nat.zero_add] at hclimbs

/-- A call without arguments, and one that is not closed behind its first separator. -/
example : asked "$a[]$b[;" = [0, 4, 4, 7, 7, 8, 8] := by
  rfl

end CanvasScript.Script
