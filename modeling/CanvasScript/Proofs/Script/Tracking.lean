import CanvasScript.Proofs.Script.Cursor
import CanvasScript.Proofs.Script.Requests

/-!
# The cursor behind the reader

The reader goes on while its cursor locates what has been read. Wherever the reader is, the cursor
is where the offsets have led it that were asked for so far, and the beginnings that are kept are
those of the open calls. This holds up to the end of a script and up to a call that is refused.

* `Reader.Tracks`: the locations that go with a reader are those counted from the start.

Results:
* `State.starts_step`: a step opens a call, closes one, or leaves the open calls as they are.
* `Reader.tracks_step`, `Reader.run_tracks`: the locations stay right, and a refused call is
  located where it begins.
* `Reader.cursor_run`: the cursor is where the offsets asked for so far have led it.
* `read_of_error`: a fault names the beginning of the call that it is about.
-/

namespace CanvasScript.Script

open Location (follow ofOffset)
open Text (Boundary)

/-- The offset of the call that a failure is about. -/
def Failure.start : Failure → Nat
  | unclosed _ start => start
  | tooDeep _ start => start

/-! ## Open calls -/

namespace State

variable {s s' : State} {c : Char}

/-- The offsets of the open calls, innermost first. -/
def starts (s : State) : List Nat :=
  s.frames.map (·.start)

theorem starts_plain (s : State) (c : Char) :
    (s.plain c).starts = s.starts ∨ ∃ start, s.starts = start :: (s.plain c).starts := by
  have hplain := s.plain_spec c
  generalize s.plain c = s' at hplain
  cases hplain with
  | backslash | dollar | outside | inside => exact .inl rfl
  | openBare hc f fs hf | closeBare hc f fs hf hb | separate hc f fs hf hb =>
    rw [starts, starts, hf]
    exact .inl rfl
  | close hc f fs hf hb =>
    rw [starts, starts, hf]
    exact .inr ⟨f.start, rfl⟩

/-- A step opens a call, which it has located, or closes one, or does neither. -/
theorem starts_step (h : s.step c = .ok s') :
    (∃ start, s.requests c = [start] ∧ s'.starts = start :: s.starts) ∨
      s'.starts = s.starts ∨ ∃ start, s.starts = start :: s'.starts := by
  cases step_spec h with
  | plain =>
    have hsettle : s.settle.starts = s.starts := by rw [starts, starts, settle_frames]
    rw [← hsettle]
    exact .inr (s.settle.starts_plain c)
  | unescape | letter => exact .inr (.inl rfl)
  | call start letters hp hl hc =>
    subst hc
    exact .inl ⟨start, requests_of_bracket hp hl, rfl⟩

end State

/-! ## Locations -/

namespace Reader

variable {source : String} {r r' : Reader} {c : Char}

theorem step_of_ok {s : State} (h : r.state.step c = .ok s) :
    r.step source c = .ok ⟨s, r.cursor.follow source (r.state.requests c),
      r.begun s (r.cursor.follow source (r.state.requests c))⟩ := by
  rw [step, h]

theorem step_of_error {e : Failure} (h : r.state.step c = .error e) :
    r.step source c = .error (e.fault (r.cursor.follow source (r.state.requests c))) := by
  rw [step, h]

theorem begun_of_opened {s : State} {start : Nat} (h : s.starts = start :: r.state.starts)
    (l : Location) : r.begun s l = l :: r.begins := by
  have hlength : s.frames.length = r.state.frames.length + 1 := by
    simpa [State.starts] using congrArg List.length h
  rw [begun, if_pos (by omega)]

theorem begun_of_eq {s : State} (h : s.starts = r.state.starts) (l : Location) :
    r.begun s l = r.begins := by
  have hlength : s.frames.length = r.state.frames.length := by
    simpa [State.starts] using congrArg List.length h
  rw [begun, if_neg (by omega), if_neg (by omega)]

theorem begun_of_closed {s : State} {start : Nat} (h : r.state.starts = start :: s.starts)
    (l : Location) : r.begun s l = r.begins.tail := by
  have hlength : r.state.frames.length = s.frames.length + 1 := by
    simpa [State.starts] using congrArg List.length h
  rw [begun, if_neg (by omega), if_pos (by omega)]

/-- The locations that go with a reader are those counted from the start. -/
structure Tracks (source : String) (r : Reader) : Prop where
  cursor : ∃ o, Boundary source o ∧ r.cursor = ofOffset source o
  begins : r.begins = r.state.starts.map (ofOffset source)

theorem Tracks.initial (source : String) : Tracks source {} where
  cursor := ⟨0, Text.boundary_zero source, (Location.ofOffset_zero source).symm⟩
  begins := rfl

/-- The cursor stays right as long as it is asked for boundaries. -/
theorem Tracks.follow (h : r.Tracks source) {os : List Nat} (hos : ∀ o ∈ os, Boundary source o) :
    ∃ o, Boundary source o ∧ r.cursor.follow source os = ofOffset source o := by
  obtain ⟨a, ha, hcursor⟩ := h.cursor
  refine ⟨os.getLastD a, ?_, ?_⟩
  · rcases os.eq_nil_or_concat with rfl | ⟨rest, o, rfl⟩
    · exact ha
    · simpa using hos o (by simp)
  · rw [hcursor, Location.follow_of_boundaries ha hos]

/-- A single offset is located where it is. -/
theorem Tracks.follow_singleton (h : r.Tracks source) {o : Nat} (ho : Boundary source o) :
    r.cursor.follow source [o] = ofOffset source o := by
  obtain ⟨a, ha, hcursor⟩ := h.cursor
  rw [hcursor, Location.follow_of_boundaries ha (by simpa using ho)]
  rfl

theorem tracks_step (h : r.Tracks source) {s : State} (hs : r.state.step c = .ok s)
    (hos : ∀ o ∈ r.state.requests c, Boundary source o) :
    Tracks source ⟨s, r.cursor.follow source (r.state.requests c),
      r.begun s (r.cursor.follow source (r.state.requests c))⟩ where
  cursor := h.follow hos
  begins := by
    dsimp only
    rcases State.starts_step hs with ⟨start, hr, hopened⟩ | heq | ⟨start, hclosed⟩
    · rw [hr] at hos
      rw [begun_of_opened hopened, h.begins, hopened, hr, h.follow_singleton (hos start (by simp))]
      rfl
    · rw [begun_of_eq heq, h.begins, heq]
    · rw [begun_of_closed hclosed, h.begins, hclosed]
      rfl

/-- Reading goes on with the right locations, or is refused for a call at the right one. -/
theorem run_tracks (h : r.Tracks source) {cs : List Char}
    (hos : ∀ o ∈ r.state.asked cs, Boundary source o) :
    (∃ r', r.run source cs = .ok r' ∧ r.state.run cs = .ok r'.state ∧ r'.Tracks source) ∨
      ∃ e, r.state.run cs = .error e ∧
        r.run source cs = .error (e.fault (ofOffset source e.start)) := by
  induction cs generalizing r with
  | nil => exact .inl ⟨r, rfl, rfl, h⟩
  | cons c cs ih =>
    cases hc : r.state.step c with
    | error e =>
      obtain ⟨name, start, letters, -, rfl, hr⟩ := State.requests_of_error hc
      have hstart : Boundary source start := by
        refine hos start ?_
        rw [State.asked, hr]
        exact List.mem_append_left _ List.mem_cons_self
      refine .inr ⟨.tooDeep name start, ?_, ?_⟩
      · rw [State.run, hc]
      · rw [run, step_of_error hc, hr, h.follow_singleton hstart]
        rfl
    | ok s =>
      rw [State.asked, hc] at hos
      rw [run, step_of_ok hc, State.run_cons hc]
      exact ih (tracks_step h hc fun o ho => hos o (List.mem_append_left _ ho))
        fun o ho => hos o (List.mem_append_right _ ho)

/-- The cursor is where the offsets have led it that were asked for so far. -/
theorem cursor_run {cs : List Char} (h : r.run source cs = .ok r') (rest : List Char) :
    ∃ os, r.state.asked (cs ++ rest) = os ++ r'.state.asked rest ∧
      r'.cursor = r.cursor.follow source os := by
  induction cs generalizing r with
  | nil =>
    cases h
    exact ⟨[], rfl, rfl⟩
  | cons c cs ih =>
    cases hc : r.state.step c with
    | error e =>
      rw [run, step_of_error hc] at h
      cases h
    | ok s =>
      rw [run, step_of_ok hc] at h
      obtain ⟨os, hasked, hcursor⟩ := ih h
      refine ⟨r.state.requests c ++ os, ?_, ?_⟩
      · rw [List.cons_append, State.asked, hc, List.append_assoc]
        exact congrArg _ hasked
      · rw [hcursor, Location.follow_append]

end Reader

/-! ## Whole scripts -/

/-- What is said about a script that cannot be read is said about the call at fault, where it
begins. -/
theorem read_of_error {source : String} {e : Failure} (h : readOffsets source = .error e) :
    read source = .error (e.fault (ofOffset source e.start)) := by
  have hos : ∀ o ∈ ({} : State).asked source.toList, Boundary source o := boundary_of_mem_asked
  rcases Reader.run_tracks (Reader.Tracks.initial source) hos with ⟨r, hr, hs, ht⟩ | ⟨e', hs, hr⟩
  · have ho : readOffsets source = r.state.finish := readOffsets_of_run hs
    rw [ho] at h
    rw [read_of_run hr, Reader.finish, h]
    unfold State.finish at h
    split at h
    · cases h
    · rename_i f fs hf
      cases h
      rw [ht.begins, State.starts, hf]
      rfl
  · rw [readOffsets, hs] at h
    cases h
    rw [read, hr]
    rfl

end CanvasScript.Script
