import CanvasScript.Proofs.Script.Tracking

/-!
# Locations of a script

What is located while a script is read are the positions of its tree, so that all locations in it
are those that the cursor finds. In a script that cannot be read, the call that is at fault has been
located, too.

* `State.noted`: the positions that the reader holds, in the order in which the cursor comes to them.
* `Located`: how offsets become locations.

Results:
* `State.noted_step`, `State.noted_run`: what has been located is what is noted, but for a first
  argument that waits.
* `positionsAll_readOffsets`: what is located in a script that can be read are the positions of its
  tree.
* `start_mem_asked`: the call that a failure is about has been located.
* `read_located`: all of it for every script.
-/

namespace CanvasScript.Script

open Text (Boundary)

/-! ## The positions of the tree -/

/-- Where nothing has a place, nothing has a position. -/
theorem Node.positionsAll_of_partsAll {ns : List (Node Nat)} (h : Node.partsAll ns = []) :
    Node.positionsAll ns = [] := by
  induction ns with
  | nil => rfl
  | cons n ns ih =>
    rw [partsAll, List.append_eq_nil_iff] at h
    rw [positionsAll, ih h.2, List.append_nil]
    cases n with
    | text content => rfl
    | mention name span => simp [parts] at h
    | call name arguments span => simp [parts] at h

namespace Region

/-- The positions of what is finished in a region. -/
def positions (r : Region) : List Nat :=
  Node.positionsAll r.nodes.reverse

@[simp] theorem positions_flush (r : Region) : r.flush.positions = r.positions := by
  unfold flush
  split
  · rfl
  · simp [positions, Node.positionsAll_append, Node.positionsAll, Node.positions]

@[simp] theorem positions_add (r : Region) (literal source : String) :
    (r.add literal source).positions = r.positions := rfl

@[simp] theorem positions_push (r : Region) (n : Node Nat) (source : String) :
    (r.push n source).positions = r.positions ++ n.positions := by
  have h : (r.push n source).positions = r.flush.positions ++ n.positions := by
    simp [push, positions, Node.positionsAll_append, Node.positionsAll]
  rw [h, positions_flush]

theorem positionsAll_finish (r : Region) : Node.positionsAll r.finish = r.positions :=
  r.positions_flush

end Region

/-- The positions of a call up to the argument that is being read. -/
def Frame.noted (f : Frame) : List Nat :=
  f.outer.positions ++ f.start :: Argument.positionsAll f.arguments.reverse

/-- The positions of open calls, with those of the arguments being read. -/
def openNoted : List Frame → List Nat
  | [] => []
  | f :: fs => openNoted fs ++ f.noted ++ [f.opened]

namespace State

variable {s s' : State} {c : Char} {located : List Nat}

/-- The positions that the reader holds, in the order in which the cursor comes to them. -/
def noted (s : State) : List Nat :=
  openNoted s.frames ++ s.region.positions

theorem noted_settle (s : State) : s.settle.noted = s.noted ++ s.settling := by
  cases hp : s.pending with
  | nothing | backslash => simp [noted, settle, settling, hp]
  | name start letters =>
    by_cases hl : letters.isEmpty <;> simp [noted, settle, settling, hp, hl, Node.positions]

theorem noted_separate {f : Frame} {fs : List Frame} (hf : s.frames = f :: fs) :
    (s.separate f fs).noted = s.noted ++ [s.offset, s.offset + 1] := by
  simp [separate, noted, hf, openNoted, Frame.noted, Argument.positionsAll_append,
    Argument.positionsAll, Argument.positions_eq, argument, Region.positionsAll_finish]
  rfl

/-- A first argument waits if nothing has been read of it. -/
theorem waiting_eq (h : s.Placed) (hp : s.pending = .nothing) {f : Frame} {fs : List Frame}
    (hf : s.frames = f :: fs) :
    s.waiting = if f.arguments.isEmpty && s.region.source.isEmpty then [f.opened] else [] := by
  have hoffset := h.offset
  rw [hp, hf, base_cons] at hoffset
  have hempty : (f.opened == s.offset) = s.region.source.isEmpty := by
    rw [Bool.eq_iff_iff, beq_iff_eq, String.isEmpty_iff, ← String.utf8ByteSize_eq_zero_iff, hoffset]
    simp [Pending.text]
  unfold waiting
  rw [hf]
  simp only [hempty]

theorem noted_closeCall_of_empty (h : s.Founded) {f : Frame} {fs : List Frame}
    (hf : s.frames = f :: fs) (he : (f.arguments.isEmpty && s.region.source.isEmpty) = true) :
    s.noted = openNoted fs ++ f.noted ++ [f.opened] ∧
      (s.closeCall f fs).noted = openNoted fs ++ f.noted ++ [s.offset + 1] := by
  simp only [closeCall_eq, closing, he, if_true]
  simp only [Bool.and_eq_true, List.isEmpty_iff, String.isEmpty_iff] at he
  have hregion : s.region.positions = [] := Node.positionsAll_of_partsAll (h he.2)
  simp [noted, hf, openNoted, Frame.noted, Node.positions, Argument.positionsAll, he.1, hregion]

theorem noted_closeCall {f : Frame} {fs : List Frame} (hf : s.frames = f :: fs)
    (he : (f.arguments.isEmpty && s.region.source.isEmpty) = false) :
    (s.closeCall f fs).noted = s.noted ++ [s.offset, s.offset + 1] := by
  simp only [closeCall_eq, closing, he, Bool.false_eq_true, if_false]
  simp [noted, hf, openNoted, Frame.noted, Node.positions, Argument.positionsAll_append,
    Argument.positionsAll, Argument.positions_eq, argument, Region.positionsAll_finish]

theorem noted_openCall (s : State) (name : String) (start : Nat) :
    (s.openCall name start).noted = s.noted ++ [start, s.offset + 1] := by
  simp [openCall, noted, openNoted, Frame.noted, Region.positions, Argument.positionsAll,
    Node.positionsAll]

theorem waiting_openCall (s : State) (name : String) (start : Nat) :
    (s.openCall name start).waiting = [s.offset + 1] := by
  simp [openCall, waiting]

/-- Literal text is noted together with the argument that waits for it. -/
theorem noted_of_literal (hn : located ++ s.waiting = s.noted)
    (hr : s.plainRequests c = s.waiting) (hs : s'.noted = s.noted)
    (hb : base s'.frames < s'.offset) :
    located ++ s.plainRequests c ++ s'.waiting = s'.noted := by
  rw [hr, waiting_of_base_lt hb, List.append_nil, hn, hs]

theorem noted_close (h : s.Placed) (hs : s.Founded) (hp : s.pending = .nothing)
    (hn : located ++ s.waiting = s.noted) {f : Frame} {fs : List Frame}
    (hf : s.frames = f :: fs) (hb : f.bare = 0) :
    located ++ s.plainRequests ']' ++ (s.closeCall f fs).waiting = (s.closeCall f fs).noted := by
  have hwaiting : (s.closeCall f fs).waiting = [] := by
    have hoffset := h.offset
    have hframe := h.frames
    rw [hf] at hoffset hframe
    have hopened := hframe.1.opened
    have hstart := hframe.1.start
    rw [base_cons] at hoffset
    refine waiting_of_base_lt ?_
    rw [closeCall_eq]
    dsimp only
    omega
  have hfirst := waiting_eq h hp hf
  rw [hwaiting, List.append_nil, plainRequests_of_close hf hb]
  cases he : f.arguments.isEmpty && s.region.source.isEmpty with
  | true =>
    obtain ⟨hnoted, hclosed⟩ := noted_closeCall_of_empty hs hf he
    rw [he, if_pos rfl] at hfirst
    rw [hfirst, hnoted] at hn
    rw [hclosed, hfirst, List.append_cancel_right hn]
    rfl
  | false =>
    rw [he, if_neg Bool.false_ne_true] at hfirst
    rw [hfirst, List.append_nil] at hn
    rw [noted_closeCall hf he, hfirst, hn]
    rfl

theorem noted_plain (h : s.Placed) (hs : s.Founded) (hp : s.pending = .nothing)
    (hn : located ++ s.waiting = s.noted) (c : Char) :
    located ++ s.plainRequests c ++ (s.plain c).waiting = (s.plain c).noted := by
  have hbase : base s.frames ≤ s.offset := Nat.le_trans (Nat.le_add_right ..) h.base_le
  have hlater : base s.frames < s.offset + c.utf8Size :=
    Nat.lt_of_le_of_lt hbase (Nat.lt_add_of_pos_right c.utf8Size_pos)
  have hplain := s.plain_spec c
  generalize s.plain c = s' at hplain
  cases hplain with
  | backslash hc | dollar hc =>
    exact noted_of_literal hn (plainRequests_of_literal (by simp [hc])) rfl (Nat.lt_succ_of_le hbase)
  | outside hc hf =>
    exact noted_of_literal hn (plainRequests_of_literal (by simp [hf])) rfl hlater
  | inside hc f fs hf hb =>
    refine noted_of_literal hn (plainRequests_of_literal fun f' fs' hf' hb' => ?_) rfl hlater
    cases hf.symm.trans hf'
    exact ⟨hc.2.2.2, hb hb'⟩
  | openBare hc f fs hf =>
    rw [hf] at hlater
    refine noted_of_literal hn (plainRequests_of_literal (by simp [hc])) ?_ hlater
    rw [noted, noted, hf]
    rfl
  | closeBare hc f fs hf hb =>
    rw [hf] at hlater
    refine noted_of_literal hn (plainRequests_of_literal fun f' fs' hf' hb' => ?_) ?_ hlater
    · cases hf.symm.trans hf'
      exact absurd hb' hb
    · rw [noted, noted, hf]
      rfl
  | separate hc f fs hf hb =>
    subst hc
    have hwaiting : (s.separate f fs).waiting = [] := by simp [separate, waiting]
    rw [hwaiting, List.append_nil, plainRequests_of_separate hf hb, ← List.append_assoc, hn,
      noted_separate hf]
  | close hc f fs hf hb =>
    subst hc
    exact noted_close h hs hp hn hf hb

/-- What has been located is noted, and what is noted has been located, but for a first argument
that waits. -/
theorem noted_step (h : s.Lies) (hf : s.Founded) (hn : located ++ s.waiting = s.noted)
    (hs : s.step c = .ok s') : located ++ s.requests c ++ s'.waiting = s'.noted := by
  have hpending (hp : s.pending ≠ .nothing) : located = s.noted := by
    rw [← hn, waiting_of_pending h.placed hp, List.append_nil]
  cases step_spec hs with
  | plain hj =>
    have hsettled : located ++ s.settling ++ s.settle.waiting = s.settle.noted := by
      rw [waiting_settle, noted_settle, ← hn]
      by_cases hp : s.pending = .nothing
      · simp [settling, hp]
      · simp [waiting_of_pending h.placed hp]
    rw [requests_of_not_joins hj, ← List.append_assoc]
    exact noted_plain (placed_settle h.placed) (founded_settle hf) s.settle_pending hsettled c
  | unescape hp hc =>
    have hbase := h.placed.base_le
    have hwaiting : (s.unescape c).waiting = [] :=
      waiting_of_base_lt (Nat.lt_succ_of_le (Nat.le_trans (Nat.le_add_right ..) hbase))
    rw [requests_of_unescape hp hc, hwaiting, hpending (by simp [hp])]
    simp [unescape, noted]
  | letter start letters hp hc =>
    have hbase := h.placed.base_le
    have hwaiting : (s.spell start letters c).waiting = [] :=
      waiting_of_base_lt (Nat.lt_succ_of_le (Nat.le_trans (Nat.le_add_right ..) hbase))
    rw [requests_of_letter hp hc, hwaiting, hpending (by simp [hp])]
    simp [spell, noted]
  | call start letters hp hl hc =>
    subst hc
    rw [requests_of_bracket hp hl, waiting_openCall, noted_openCall, hpending (by simp [hp])]
    simp

/-- The same for a run: what is located in it comes before what is located at its end. -/
theorem noted_run (h : s.Lies) (hf : s.Founded) (hn : located ++ s.waiting = s.noted)
    {cs : List Char} (hs : s.run cs = .ok s') :
    ∃ located', located ++ s.asked cs = located' ++ s'.lastRequests ∧
      located' ++ s'.waiting = s'.noted := by
  induction cs generalizing s located with
  | nil =>
    cases hs
    exact ⟨located, rfl, hn⟩
  | cons c cs ih =>
    cases hc : s.step c with
    | error e => simp [run, hc] at hs
    | ok t =>
      rw [run_cons hc] at hs
      obtain ⟨located', hlocated, hnoted⟩ :=
        ih (lies_step h hf hc) (founded_step hf hc) (noted_step h hf hn hc) hs
      refine ⟨located', ?_, hnoted⟩
      rw [asked, hc, ← List.append_assoc]
      exact hlocated

/-- The start of a call that is too deep is located. -/
theorem start_mem_asked_of_error {e : Failure} {cs : List Char} (hs : s.run cs = .error e) :
    ∃ name start, e = .tooDeep name start ∧ start ∈ s.asked cs := by
  induction cs generalizing s with
  | nil => cases hs
  | cons c cs ih =>
    cases hc : s.step c with
    | error e' =>
      simp only [run, hc, Except.error.injEq] at hs
      obtain ⟨name, start, letters, -, he, hr⟩ := requests_of_error hc
      refine ⟨name, start, hs ▸ he, ?_⟩
      rw [asked, hr]
      exact List.mem_append_left _ List.mem_cons_self
    | ok t =>
      rw [run_cons hc] at hs
      obtain ⟨name, start, he, hmem⟩ := ih hs
      refine ⟨name, start, he, ?_⟩
      rw [asked, hc]
      exact List.mem_append_right _ hmem

end State

/-! ## The whole script -/

section Whole

variable {source : String}

/-- What is located up to the end of a script is noted there. -/
theorem asked_of_run {s : State} (h : ({} : State).run source.toList = .ok s) :
    ∃ located, asked source = located ++ s.lastRequests ∧ located ++ s.waiting = s.noted := by
  have hinitial : [] ++ ({} : State).waiting = ({} : State).noted := rfl
  exact State.noted_run State.lies_initial (fun _ => rfl) hinitial h

/-- The offsets that are located in a script that can be read are the positions of its tree. -/
theorem positionsAll_readOffsets {nodes : List (Node Nat)} (h : readOffsets source = .ok nodes) :
    Node.positionsAll nodes = asked source := by
  obtain ⟨s, hr, hf⟩ := readOffsets_ok h
  obtain ⟨located, hasked, hnoted⟩ := asked_of_run hr
  unfold State.finish at hf
  split at hf
  · rename_i hframes
    cases hf
    have hwaiting : s.waiting = [] := by simp [State.waiting, hframes]
    have hlast : s.lastRequests = s.settling := by simp [State.lastRequests, hframes]
    rw [hwaiting, List.append_nil] at hnoted
    rw [hasked, hlast, hnoted, ← State.noted_settle, State.noted, State.settle_frames, hframes,
      Region.positionsAll_finish]
    rfl
  · cases hf

/-- The start of the call that a failure is about is located. -/
theorem start_mem_asked {failure : Failure} (h : readOffsets source = .error failure) :
    ∃ name, ∃ start ∈ asked source,
      failure = .unclosed name start ∨ failure = .tooDeep name start := by
  cases hr : ({} : State).run source.toList with
  | error e =>
    obtain ⟨name, start, rfl, hmem⟩ := State.start_mem_asked_of_error hr
    rw [readOffsets, hr] at h
    cases h
    exact ⟨name, start, hmem, .inr rfl⟩
  | ok s =>
    obtain ⟨located, hasked, hnoted⟩ := asked_of_run hr
    rw [readOffsets_of_run hr] at h
    unfold State.finish at h
    split at h
    · cases h
    · rename_i f fs hf
      cases h
      refine ⟨f.name, f.start, ?_, .inl rfl⟩
      -- It is noted, and what is noted and has not been located waits and is located at the end.
      have hmem : f.start ∈ located ++ s.waiting := by
        rw [hnoted]
        simp [State.noted, hf, openNoted, Frame.noted]
      have hlast : s.lastRequests = s.settling ++ (s.waiting ++ [s.offset]) := by
        simp [State.lastRequests, hf]
      rw [hasked, hlast]
      simp only [List.mem_append] at hmem ⊢
      tauto

open Location (endOf follow ofOffset start trail)

/-- Where the cursor is when an offset is to be located. -/
theorem offset_follow_le {before after : List Nat} {o : Nat}
    (h : asked source = before ++ o :: after) : (follow source start before).offset ≤ o := by
  have hbefore : ∀ q ∈ before, Boundary source q := by
    intro q hq
    refine boundary_of_mem_asked q ?_
    rw [h]
    exact List.mem_append_left _ hq
  have hlast : Boundary source (before.getLastD 0) := by
    rcases before.eq_nil_or_concat with rfl | ⟨rest, q, rfl⟩
    · exact Text.boundary_zero source
    · simpa using hbefore q (by simp)
  have hfollow := Location.follow_of_boundaries (Text.boundary_zero source) hbefore
  rw [Location.ofOffset_zero] at hfollow
  rw [hfollow, Location.offset_ofOffset hlast]
  have hclimbs := climbs_asked source
  rw [h] at hclimbs
  exact hclimbs.getLastD_le

/-- The cursor finds what is counted from the start. -/
theorem trail_asked (source : String) :
    trail source start (asked source) = (asked source).map (ofOffset source) := by
  rw [← Location.ofOffset_zero source]
  exact Location.trail_of_boundaries (Text.boundary_zero source) boundary_of_mem_asked

/-- The locations of a tree are found in the order in which its offsets are located. -/
theorem positionsAll_read {nodes : List (Node Location)} (h : read source = .ok nodes) :
    Node.positionsAll nodes = trail source start (asked source) := by
  rcases read_cases source with ⟨offsets, ho, hr⟩ | ⟨e, l, -, hr⟩
  · cases hr.symm.trans h
    rw [(Node.trail_locateAll source offsets start).1, positionsAll_readOffsets ho]
  · cases hr.symm.trans h

theorem eq_ofOffset_of_mem_trail {l : Location} (h : l ∈ trail source start (asked source)) :
    l = ofOffset source l.offset := by
  rw [trail_asked, List.mem_map] at h
  obtain ⟨o, ho, rfl⟩ := h
  rw [Location.offset_ofOffset (boundary_of_mem_asked o ho)]

/-- What is said about a failure is said about a call that the cursor has found. -/
theorem of_read_error {fault : Fault} (h : read source = .error fault) :
    ∃ name, ∃ l ∈ trail source start (asked source),
      fault = .parse (.unclosed name l) ∨ fault = .parse (.tooDeep name l maxDepth) := by
  rcases read_cases source with ⟨offsets, -, hr⟩ | ⟨e, l, he, -⟩
  · cases hr.symm.trans h
  · cases (read_of_error he).symm.trans h
    obtain ⟨name, o, ho, hkind⟩ := start_mem_asked he
    refine ⟨name, ofOffset source o, ?_, ?_⟩
    · rw [trail_asked]
      exact List.mem_map_of_mem ho
    · rcases hkind with rfl | rfl
      · exact .inl rfl
      · exact .inr rfl

/-- How offsets become locations while a script is read. -/
structure Located (source : String) : Prop where
  /-- Wherever the reader is, its cursor has located what was asked for so far; what is asked for
  later comes behind that. -/
  cursor : ∀ before after r, source.toList = before ++ after →
    ({} : Reader).run source before = .ok r →
    ∃ os, asked source = os ++ r.state.asked after ∧ r.cursor = follow source start os
  /-- Nothing but boundaries of characters is located. -/
  boundary : ∀ o ∈ asked source, Boundary source o
  /-- None of them lies behind the cursor, so that counting never begins again. -/
  ahead : ∀ before o after, asked source = before ++ o :: after →
    (follow source start before).offset ≤ o
  /-- The cursor finds what is counted from the start. -/
  found : trail source start (asked source) = (asked source).map (ofOffset source)
  /-- All locations of the tree are those that it finds, in their order. -/
  tree : ∀ nodes, read source = .ok nodes →
    Node.positionsAll nodes = trail source start (asked source) ∧
      ∀ l ∈ Node.positionsAll nodes, l = ofOffset source l.offset
  /-- So is the location in a fault. -/
  fault : ∀ fault, read source = .error fault →
    ∃ name, ∃ l ∈ trail source start (asked source), l = ofOffset source l.offset ∧
      (fault = .parse (.unclosed name l) ∨ fault = .parse (.tooDeep name l maxDepth))
  /-- Counted from the start, lines and columns are those of the text before an offset. -/
  counted : ∀ before after, source = before ++ after →
    ofOffset source before.utf8ByteSize = endOf before
  /-- It does not matter from which boundary an offset is counted. -/
  advanced : ∀ a b, Boundary source a ∨ source.utf8ByteSize ≤ a →
    Boundary source b ∨ source.utf8ByteSize ≤ b →
      (ofOffset source a).advance source b = ofOffset source b
  /-- Counters of 32 bits do not overflow unless the script is longer than they can count. -/
  counters : source.length < 2 ^ 32 - 1 → ∀ o, Boundary source o →
    (ofOffset source o).line < 2 ^ 32 ∧ (ofOffset source o).column < 2 ^ 32

/-- **Every location is the one counted from the start.** Whatever is read, whether it can be read
to its end or not, the cursor is asked for boundaries of characters alone, in their order, so that
lines and columns are counted once and are right. -/
theorem read_located (source : String) : Located source where
  cursor before after r h hr := by
    rw [asked, h]
    exact Reader.cursor_run hr after
  boundary := boundary_of_mem_asked
  ahead _ _ _ := offset_follow_le
  found := trail_asked source
  tree nodes h := by
    have htrail := positionsAll_read h
    exact ⟨htrail, fun l hl => eq_ofOffset_of_mem_trail (htrail ▸ hl)⟩
  fault fault h := by
    obtain ⟨name, l, hl, hfault⟩ := of_read_error h
    exact ⟨name, l, hl, eq_ofOffset_of_mem_trail hl, hfault⟩
  counted _ _ := Location.ofOffset_of_eq
  advanced _ _ := Location.advance_ofOffset
  counters h _ := Location.counters_lt h

end Whole

end CanvasScript.Script
