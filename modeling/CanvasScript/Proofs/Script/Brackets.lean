import CanvasScript.Proofs.Script.Tracking

/-!
# Which scripts can be read

Whether a script can be read depends on its brackets alone. `scan` goes over a script once and
keeps one stack of open brackets:

* a backslash takes a special character behind it along;
* `$` and the longest name behind it, if a `[` follows at once, open a call;
* any other `[` opens a bare bracket, but only inside another bracket;
* `]` closes the bracket opened last, if there is one;
* a call that would stand inside `maxDepth` others is an error.

The reader keeps the same stack in another form: a frame for each open call, and in each frame the
number of bare brackets open in its argument. `State.brackets` is the stack that the frames stand
for.

Results:
* `run_scan`: the reader and the scan go through the same stacks.
* `read_iff_scan`: a script is read if and only if the scan ends with no bracket open, and else the
  fault names the call that is too deep, or the innermost one that is open.
-/

namespace CanvasScript.Script

/-! ## The scan -/

/-- An open bracket. -/
inductive Bracket where
  /-- The bracket of a call that begins at `start`. -/
  | call (name : String) (start : Nat)
  | bare
deriving DecidableEq, Repr

/-- The name and the place of the call that a bracket belongs to. -/
def Bracket.call? : Bracket → Option (String × Nat)
  | call name start => some (name, start)
  | bare => none

/-- The number of open calls. -/
def openCalls (stack : List Bracket) : Nat :=
  (stack.filterMap Bracket.call?).length

/-- The innermost open call. -/
def innermostCall? (stack : List Bracket) : Option (String × Nat) :=
  stack.findSome? Bracket.call?

/-- The open brackets behind a character that is neither a backslash nor a `$`. -/
def turn (stack : List Bracket) (c : Char) : List Bracket :=
  if c = '[' then
    if stack.isEmpty then [] else .bare :: stack
  else if c = ']' then stack.tail
  else stack

/-- A name, and a `[` right behind the longest one that there is. -/
def beginsCall (cs : List Char) : Bool :=
  cs.head?.any startsName && (cs.dropWhile continuesName).head? == some '['

/-- The brackets that a text leaves open, or the call in it that is too deep; `offset` is where the
text begins, and `stack` is open there. -/
def scan (offset : Nat) (stack : List Bracket) : List Char → Except Failure (List Bracket)
  | [] => .ok stack
  | c :: cs =>
    if c = '\\' then
      if cs.head?.any isSpecial then scan (offset + 2) stack cs.tail
      else scan (offset + 1) stack cs
    else if c = '$' then
      if beginsCall cs then
        let letters := cs.takeWhile continuesName
        let name := "$" ++ String.ofList letters
        if maxDepth ≤ openCalls stack then .error (.tooDeep name offset)
        else
          scan (offset + letters.length + 2) (.call name offset :: stack)
            (cs.dropWhile continuesName).tail
      else scan (offset + 1) stack cs
    else scan (offset + c.utf8Size) (turn stack c) cs
termination_by cs => cs.length
decreasing_by
  all_goals
    have := (List.dropWhile_sublist continuesName (l := cs)).length_le
    simp only [List.length_cons, List.length_tail]
    omega

/-! ## The stack of the reader -/

/-- The brackets of an open call and of its argument, innermost first. -/
def Frame.brackets (f : Frame) : List Bracket :=
  List.replicate f.bare .bare ++ [.call f.name f.start]

namespace State

/-- The open brackets, innermost first. -/
def brackets (s : State) : List Bracket :=
  s.frames.flatMap Frame.brackets

theorem brackets_cons {s : State} {f : Frame} {fs : List Frame} (h : s.frames = f :: fs) :
    s.brackets =
      List.replicate f.bare .bare ++ .call f.name f.start :: fs.flatMap Frame.brackets := by
  simp [brackets, h, Frame.brackets]

theorem brackets_settle (s : State) : s.settle.brackets = s.brackets := by
  rw [brackets, settle_frames, brackets]

/-- The calls on the stack are the open calls. -/
theorem filterMap_brackets (fs : List Frame) :
    (fs.flatMap Frame.brackets).filterMap Bracket.call? = fs.map fun f => (f.name, f.start) := by
  induction fs with
  | nil => rfl
  | cons f fs ih =>
    have hbare : (List.replicate f.bare Bracket.bare).filterMap Bracket.call? = [] := by
      rw [List.filterMap_eq_nil_iff]
      intro b hb
      rw [List.eq_of_mem_replicate hb]
      rfl
    rw [List.flatMap_cons, List.filterMap_append, ih, Frame.brackets, List.filterMap_append, hbare]
    rfl

theorem openCalls_brackets (s : State) : openCalls s.brackets = s.frames.length := by
  rw [openCalls, brackets, filterMap_brackets, List.length_map]

theorem innermostCall?_brackets (s : State) :
    innermostCall? s.brackets = s.frames.head?.map fun f => (f.name, f.start) := by
  rw [innermostCall?, ← List.head?_filterMap, brackets, filterMap_brackets, List.head?_map]

/-- A character that is neither a backslash nor a `$` turns the stack. -/
theorem brackets_plain (s : State) {c : Char} (h₁ : c ≠ '\\') (h₂ : c ≠ '$') :
    (s.plain c).brackets = turn s.brackets c := by
  have hp := s.plain_spec c
  generalize s.plain c = s' at hp
  cases hp with
  | backslash hc => exact absurd hc h₁
  | dollar hc => exact absurd hc h₂
  | outside _ hf =>
    have h : s.brackets = [] := by simp [brackets, hf]
    rw [show (s.literal c).brackets = s.brackets from rfl, h]
    simp [turn]
  | inside hc =>
    rw [show (s.literal c).brackets = s.brackets from rfl]
    simp [turn, hc]
  | openBare hc f fs hf =>
    rw [brackets_cons hf, brackets_cons (s := s.bracket c f fs (f.bare + 1)) rfl]
    simp [turn, hc, List.replicate_succ]
  | closeBare hc f fs hf hb =>
    obtain ⟨n, hn⟩ := Nat.exists_eq_succ_of_ne_zero hb
    rw [brackets_cons hf, brackets_cons (s := s.bracket c f fs (f.bare - 1)) rfl]
    simp [turn, hc, hn, List.replicate_succ]
  | separate hc f fs hf hb =>
    rw [brackets_cons hf, brackets_cons (s := s.separate f fs) rfl]
    simp [turn, hc, hb]
  | close hc f fs hf hb =>
    rw [brackets_cons hf, show (s.closeCall f fs).brackets = fs.flatMap Frame.brackets from rfl]
    simp [turn, hc, hb]

/-! ## The reader and the scan -/

/-- A text that does not join what is pending leaves the same brackets as after settling. -/
theorem map_run_settle {s : State} {cs : List Char}
    (h : ∀ d ∈ cs.head?, s.pending.joins d = false) :
    (s.run cs).map brackets = (s.settle.run cs).map brackets := by
  cases cs with
  | nil => simp only [run_nil, Except.map, brackets_settle]
  | cons d ds => rw [run_settle (h d rfl)]

end State

/-- The scan skips letters. -/
theorem scan_letters (offset : Nat) (stack : List Bracket) {ds : List Char}
    (hd : ∀ d ∈ ds, continuesName d = true) (rest : List Char) :
    scan offset stack (ds ++ rest) = scan (offset + ds.length) stack rest := by
  induction ds generalizing offset with
  | nil => rfl
  | cons d ds ih =>
    have hc : continuesName d = true := hd d List.mem_cons_self
    have ne : ∀ c, isSpecial c = true → d ≠ c := by
      rintro c hs rfl
      rw [not_continuesName_of_isSpecial hs] at hc
      cases hc
    have hturn : turn stack d = stack := by
      simp [turn, ne '[' (by decide), ne ']' (by decide)]
    rw [List.cons_append, scan, if_neg (ne '\\' (by decide)), if_neg (ne '$' (by decide)), hturn,
      utf8Size_of_continuesName hc, ih _ fun d hd' => hd d (List.mem_cons_of_mem _ hd')]
    congr 1
    rw [List.length_cons]
    omega

/-- The longest name at the beginning of a text begins where the text does. -/
theorem starts_takeWhile {cs : List Char} (h : cs.head?.any startsName = true) :
    (cs.takeWhile continuesName).head?.any startsName = true := by
  obtain _ | ⟨c, cs⟩ := cs
  · cases h
  · have hc : startsName c = true := by simpa using h
    rw [List.takeWhile_cons_of_pos (continuesName_of_startsName hc)]
    exact h

theorem takeWhile_ne_nil {cs : List Char} (h : cs.head?.any startsName = true) :
    cs.takeWhile continuesName ≠ [] :=
  ne_nil_of_startsName (starts_takeWhile h)

/-- The reader and the scan agree on all texts that are not longer than `n`. -/
def AgreeUpTo (n : Nat) : Prop :=
  ∀ (s : State) (cs : List Char), cs.length ≤ n → s.pending = .nothing →
    (s.run cs).map State.brackets = scan s.offset s.brackets cs

namespace State

theorem run_scan_backslash {s : State} (hp : s.pending = .nothing) {cs : List Char}
    (ih : AgreeUpTo cs.length) :
    (s.run ('\\' :: cs)).map brackets = scan s.offset s.brackets ('\\' :: cs) := by
  have hstep : s.step '\\' = .ok (s.hold .backslash) := by
    rw [step, hp]
    rfl
  rw [run_cons hstep, scan, if_pos rfl]
  split
  · rename_i hs
    obtain _ | ⟨d, ds⟩ := cs
    · cases hs
    have hd : isSpecial d = true := by simpa using hs
    have hnext : (s.hold .backslash).step d = .ok ((s.hold .backslash).unescape d) := by
      simp [step, hold, hd, unescape]
    rw [run_cons hnext, ih _ ds (Nat.le_succ _) rfl]
    rfl
  · rename_i hs
    rw [map_run_settle, ih _ cs (Nat.le_refl _) (settle_pending _), settle_offset, brackets_settle]
    · rfl
    · intro d hd
      rw [hd] at hs
      simpa [hold, Pending.joins] using hs

/-- A `$` and the longest name behind it are read in one go. -/
theorem run_longest_name {s : State} (hp : s.pending = .nothing) {cs : List Char}
    (hs : cs.head?.any startsName = true) :
    s.run ('$' :: cs) =
      (s.named (cs.takeWhile continuesName)).run (cs.dropWhile continuesName) := by
  have h := run_name hp (starts_takeWhile hs)
    (fun d hd => List.all_eq_true.1 List.all_takeWhile d hd) (cs.dropWhile continuesName)
  rwa [List.takeWhile_append_dropWhile] at h

/-- A name with a `[` behind it opens a call, unless it would be too deep. -/
theorem run_scan_call {s : State} (hp : s.pending = .nothing) {cs : List Char}
    (hc : beginsCall cs = true) (ih : AgreeUpTo cs.length) :
    (s.run ('$' :: cs)).map brackets = scan s.offset s.brackets ('$' :: cs) := by
  obtain ⟨hs, hb⟩ : cs.head?.any startsName = true ∧
      (cs.dropWhile continuesName).head? = some '[' := by
    simpa [beginsCall] using hc
  obtain ⟨rest, hrest⟩ : ∃ rest, cs.dropWhile continuesName = '[' :: rest :=
    List.head?_eq_some_iff.1 hb
  have hlen : rest.length ≤ cs.length := by
    have := (List.dropWhile_sublist continuesName (l := cs)).length_le
    rw [hrest, List.length_cons] at this
    omega
  have hne := takeWhile_ne_nil hs
  rw [run_longest_name hp hs, scan, if_neg (by decide), if_pos rfl, if_pos hc, openCalls_brackets,
    hrest, List.tail_cons]
  split
  · rename_i hd
    rw [run, step_bracket hne, if_pos hd]
    rfl
  · rename_i hd
    rw [run_cons (by rw [step_bracket hne, if_neg hd]), ih _ rest hlen rfl]
    have hoffset : s.offset + 1 + (cs.takeWhile continuesName).length + 1 =
        s.offset + (cs.takeWhile continuesName).length + 2 := by
      omega
    simp only [openCall, named, hoffset]
    rfl

/-- A `$` that does not begin a call is skipped. -/
theorem run_scan_skip {s : State} (hp : s.pending = .nothing) {cs : List Char}
    (hc : beginsCall cs = false) (ih : AgreeUpTo cs.length) :
    (s.run ('$' :: cs)).map brackets = scan s.offset s.brackets ('$' :: cs) := by
  rw [scan, if_neg (by decide), if_pos rfl, if_neg (by simp [hc])]
  by_cases hs : cs.head?.any startsName = true
  · have hlen := (List.dropWhile_sublist continuesName (l := cs)).length_le
    have hskip := scan_letters (s.offset + 1) s.brackets
      (fun d hd => List.all_eq_true.1 (List.all_takeWhile (p := continuesName) (l := cs)) d hd)
      (cs.dropWhile continuesName)
    rw [List.takeWhile_append_dropWhile] at hskip
    rw [run_longest_name hp hs, hskip, map_run_settle, ih _ _ hlen (settle_pending _),
      settle_offset, brackets_settle]
    · rfl
    · intro d hd
      have hd : (cs.dropWhile continuesName).head? = some d := hd
      have hb : d ≠ '[' := by
        rintro rfl
        simp [beginsCall, hs, hd] at hc
      have hn := List.head?_dropWhile_not continuesName cs
      rw [hd] at hn
      rw [joins_named s (takeWhile_ne_nil hs), hn]
      simpa using hb
  · have hstep : s.step '$' = .ok (s.hold (.name s.offset "")) := by
      rw [step, hp]
      rfl
    rw [run_cons hstep, map_run_settle, ih _ cs (Nat.le_refl _) (settle_pending _), settle_offset,
      brackets_settle]
    · rfl
    · intro d hd
      rw [hd] at hs
      simpa [hold, Pending.joins] using hs

/-- **The reader and the scan go through the same stacks.** The induction is on the length of the
text, since a backslash and a name take more than one character along. -/
theorem run_scan (n : Nat) : AgreeUpTo n := by
  induction n with
  | zero =>
    intro s cs hn hp
    rw [List.eq_nil_of_length_eq_zero (Nat.le_zero.1 hn)]
    simp only [run_nil, Except.map, scan]
  | succ n ih =>
    intro s cs hn hp
    obtain _ | ⟨c, cs⟩ := cs
    · simp only [run_nil, Except.map, scan]
    have ih : AgreeUpTo cs.length := fun t ds hds =>
      ih t ds (Nat.le_trans hds (Nat.le_of_succ_le_succ hn))
    by_cases h₁ : c = '\\'
    · subst h₁
      exact run_scan_backslash hp ih
    by_cases h₂ : c = '$'
    · subst h₂
      cases hc : beginsCall cs with
      | true => exact run_scan_call hp hc ih
      | false => exact run_scan_skip hp hc ih
    have hstep : s.step c = .ok (s.plain c) := by rw [step, hp]
    rw [run_cons hstep, ih _ cs (Nat.le_refl _) (plain_pending hp h₁ h₂),
      brackets_plain s h₁ h₂, offset_plain, scan, if_neg h₁, if_neg h₂]

end State

/-! ## What can be read -/

/-- The innermost open call stands on the stack whenever a bracket is open. -/
theorem finish_brackets (s : State) :
    (s.brackets = [] ∧ ∃ nodes, s.finish = .ok nodes) ∨
    (s.brackets ≠ [] ∧ ∃ name start, innermostCall? s.brackets = some (name, start) ∧
      s.finish = .error (.unclosed name start)) := by
  cases hf : s.frames with
  | nil => exact .inl ⟨by simp [State.brackets, hf], _, by rw [State.finish, hf]⟩
  | cons f fs =>
    refine .inr ⟨by simp [State.brackets_cons hf], f.name, f.start, ?_, by rw [State.finish, hf]⟩
    rw [State.innermostCall?_brackets, hf]
    rfl

/-- **A script is read if and only if the scan leaves no bracket open.** Otherwise the fault names
the call that the scan found too deep, or else the innermost call that it left open, however many
bare brackets are open in it, with the place of the `$` of that call. -/
theorem read_iff_scan (source : String) :
    match scan 0 [] source.toList with
    | .error failure => ∃ name start, failure = .tooDeep name start ∧
        read source =
          .error (.parse (.tooDeep name (Location.ofOffset source start) maxDepth))
    | .ok [] => ∃ nodes, read source = .ok nodes
    | .ok (b :: stack) => ∃ name start, innermostCall? (b :: stack) = some (name, start) ∧
        read source = .error (.parse (.unclosed name (Location.ofOffset source start))) := by
  have h : (({} : State).run source.toList).map State.brackets = scan 0 [] source.toList :=
    State.run_scan source.toList.length {} source.toList (Nat.le_refl _) rfl
  rw [← h]
  cases hr : ({} : State).run source.toList with
  | error e =>
    obtain ⟨name, start, rfl⟩ := State.run_error hr
    have ho : readOffsets source = .error (.tooDeep name start) := by
      rw [readOffsets, hr]
      rfl
    exact ⟨name, start, rfl, read_of_error ho⟩
  | ok s =>
    have ho := readOffsets_of_run hr
    rcases finish_brackets s with ⟨hs, nodes, hn⟩ | ⟨hs, name, start, hi, he⟩
    · rw [Except.map, hs]
      exact exists_read (ho.trans hn)
    · rw [Except.map]
      obtain ⟨b, stack, hb⟩ := List.exists_cons_of_ne_nil hs
      rw [hb] at hi ⊢
      exact ⟨name, start, hi, read_of_error (ho.trans he)⟩

end CanvasScript.Script
