import CanvasScript.Proofs.Script.Positions

/-!
# Reading an argument by itself

An argument is read once, in its place. Its text read by itself gives the same nodes: brackets and
separators that count in the one reading are literal text in the other, and the argument ends
exactly where the other reading runs out of text.

* `State.raise`: a state reached on a text by itself, as it is when the text stands further on in a
  script and inside open calls.
* `raise_step`: both read a character in the same way, unless it ends the argument.
* `State.Replays`: for every open argument, a run on its text alone has come equally far.

Results:
* `reread_arguments`: every argument of a script can be read by itself, and gives its own nodes.
* `read_source`: the same for trees with locations.
-/

namespace CanvasScript.Script

/-! ## The same state further on -/

/-- A region of a text that stands `o` bytes further on. -/
def Region.raise (o : Nat) (r : Region) : Region :=
  { r with nodes := Node.mapAll (· + o) r.nodes }

/-- An open call of a text that stands `o` bytes further on. -/
def Frame.raise (o : Nat) (f : Frame) : Frame :=
  { f with
    outer := f.outer.raise o
    start := f.start + o
    arguments := Argument.mapAll (· + o) f.arguments
    opened := f.opened + o }

/-- Pending characters of a text that stands `o` bytes further on. -/
def Pending.raise (o : Nat) : Pending → Pending
  | .name start letters => .name (start + o) letters
  | p => p

namespace Region

theorem raise_flush (o : Nat) (r : Region) : (r.raise o).flush = r.flush.raise o := by
  unfold flush
  by_cases h : r.literal.isEmpty <;> simp [raise, h, Node.mapAll, Node.map]

theorem raise_push (o : Nat) (r : Region) (n : Node Nat) (source : String) :
    (r.raise o).push (n.map (· + o)) source = (r.push n source).raise o := by
  simp only [push, raise_flush]
  rfl

theorem finish_raise (o : Nat) (r : Region) :
    (r.raise o).finish = Node.mapAll (· + o) r.finish := by
  unfold finish
  rw [raise_flush, raise, Node.mapAll_eq_map, Node.mapAll_eq_map, List.map_reverse]

end Region

namespace State

/-- The state reached on a text that stands `o` bytes further on, in an argument of the innermost
call of `base`. -/
def raise (o : Nat) (base : List Frame) (t : State) : State where
  region := t.region.raise o
  frames := t.frames.map (Frame.raise o) ++ base
  pending := t.pending.raise o
  offset := t.offset + o

variable {o : Nat} {base : List Frame} {t : State}

theorem raise_settle : (t.raise o base).settle = t.settle.raise o base := by
  cases hp : t.pending with
  | nothing => simp only [settle, raise, hp, Pending.raise]
  | backslash =>
    simp only [settle, raise, hp, Pending.raise]
    rfl
  | name start letters =>
    by_cases hl : letters.isEmpty = true
    · simp only [settle, raise, hp, Pending.raise, hl, if_true]
      rfl
    · have hpush := Region.raise_push o t.region (.mention ("$" ++ letters) ⟨start, t.offset⟩)
        ("$" ++ letters)
      simp only [settle, raise, hp, Pending.raise, if_neg hl, ← hpush]
      rfl

theorem joins_raise (p : Pending) (c : Char) : (p.raise o).joins c = p.joins c := by
  cases p <;> rfl

theorem name_of_raise {p : Pending} {start : Nat} {letters : String}
    (h : p.raise o = .name start letters) : ∃ i, p = .name i letters ∧ start = i + o := by
  cases p with
  | nothing | backslash => cases h
  | name i ls =>
    cases h
    exact ⟨i, rfl, rfl⟩

theorem argument_raise (f : Frame) :
    (t.raise o base).argument (f.raise o) = (t.argument f).map (· + o) := by
  simp only [argument, raise, Frame.raise, Argument.map, Region.finish_raise]
  rfl

theorem closing_raise (f : Frame) :
    (t.raise o base).closing (f.raise o) = Argument.mapAll (· + o) (t.closing f) := by
  have hargs : (f.raise o).arguments.isEmpty = f.arguments.isEmpty := by
    cases h : f.arguments <;> simp [Frame.raise, h, Argument.mapAll]
  have hsource : (t.raise o base).region.source = t.region.source := rfl
  unfold closing
  rw [hargs, hsource]
  split
  · rfl
  · rw [argument_raise, Argument.mapAll_eq_map, List.map_reverse, List.map_cons,
      ← Argument.mapAll_eq_map]
    rfl

theorem closeCall_raise (f : Frame) (fs : List Frame) :
    (t.raise o base).closeCall (f.raise o) (fs.map (Frame.raise o) ++ base) =
      (t.closeCall f fs).raise o base := by
  have hsource : (Argument.mapAll (· + o) (t.closing f)).map (·.source) =
      (t.closing f).map (·.source) := by
    rw [Argument.mapAll_eq_map, List.map_map]
    exact List.map_congr_left fun a _ => by rw [Function.comp, Argument.map_eq]
  have hpush := Region.raise_push o f.outer
    (.call f.name (t.closing f) ⟨f.start, t.offset + 1⟩)
    (f.name ++ "[" ++ ";".intercalate ((t.closing f).map (·.source)) ++ "]")
  have hstop : t.offset + o + 1 = t.offset + 1 + o := by omega
  rw [closeCall_eq, closeCall_eq, closing_raise, hsource]
  simp only [raise, ← hpush, Node.map, Span.map, Frame.raise, hstop]
  rfl

theorem separate_raise (f : Frame) (fs : List Frame) :
    (t.raise o base).separate (f.raise o) (fs.map (Frame.raise o) ++ base) =
      (t.separate f fs).raise o base := by
  have hstop : t.offset + o + 1 = t.offset + 1 + o := by omega
  rw [separate, argument_raise]
  simp only [separate, raise, Frame.raise, hstop]
  rfl

theorem literal_raise (c : Char) : (t.raise o base).literal c = (t.literal c).raise o base := by
  have hstop : t.offset + o + c.utf8Size = t.offset + c.utf8Size + o := by omega
  simp only [literal, raise, hstop]
  rfl

theorem bracket_raise (c : Char) (f : Frame) (fs : List Frame) (n : Nat) :
    (t.raise o base).bracket c (f.raise o) (fs.map (Frame.raise o) ++ base) n =
      (t.bracket c f fs n).raise o base := by
  rw [bracket, literal_raise]
  rfl

theorem hold_raise (p : Pending) :
    (t.raise o base).hold (p.raise o) = (t.hold p).raise o base := by
  have hstop : t.offset + o + 1 = t.offset + 1 + o := by omega
  simp only [hold, raise, hstop]

/-- Inside an open call both readings do the same. -/
theorem plain_raise {f : Frame} {fs : List Frame} (ht : t.frames = f :: fs) (c : Char) :
    (t.raise o base).plain c = (t.plain c).raise o base := by
  have hr : (t.raise o base).frames = f.raise o :: (fs.map (Frame.raise o) ++ base) := by
    simp [raise, ht]
  have hb : (f.raise o).bare = f.bare := rfl
  by_cases h₁ : c = '\\'
  · simp only [plain, if_pos h₁]
    exact hold_raise .backslash
  by_cases h₂ : c = '$'
  · simp only [plain, if_neg h₁, if_pos h₂]
    exact hold_raise (.name t.offset "")
  by_cases h₃ : c = '['
  · simp only [plain, if_neg h₁, if_neg h₂, if_pos h₃, hr, ht]
    exact bracket_raise c f fs (f.bare + 1)
  by_cases h₄ : f.bare = 0
  · by_cases h₅ : c = ';'
    · simp only [plain, if_neg h₁, if_neg h₂, if_neg h₃, hb, if_pos h₄, if_pos h₅, hr, ht]
      exact separate_raise f fs
    by_cases h₆ : c = ']'
    · simp only [plain, if_neg h₁, if_neg h₂, if_neg h₃, hb, if_pos h₄, if_neg h₅, if_pos h₆, hr,
        ht]
      exact closeCall_raise f fs
    · simp only [plain, if_neg h₁, if_neg h₂, if_neg h₃, hb, if_pos h₄, if_neg h₅, if_neg h₆, hr,
        ht]
      exact literal_raise c
  by_cases h₆ : c = ']'
  · simp only [plain, if_neg h₁, if_neg h₂, if_neg h₃, hb, if_neg h₄, if_pos h₆, hr, ht]
    exact bracket_raise c f fs (f.bare - 1)
  · simp only [plain, if_neg h₁, if_neg h₂, if_neg h₃, hb, if_neg h₄, if_neg h₆, hr, ht]
    exact literal_raise c

/-- Outside calls the two readings differ where the argument ends, and in the brackets that only
the reading in place counts. -/
theorem plain_raise_outside (ht : t.frames = []) (f : Frame) (fs : List Frame) (c : Char) :
    (∃ bare, (t.raise o (f :: fs)).plain c = (t.plain c).raise o ({ f with bare } :: fs)) ∨
    (t.raise o (f :: fs)).plain c = (t.raise o (f :: fs)).separate f fs ∨
    (t.raise o (f :: fs)).plain c = (t.raise o (f :: fs)).closeCall f fs := by
  have hr : (t.raise o (f :: fs)).frames = f :: fs := by simp [raise, ht]
  have hliteral : c ≠ '\\' → c ≠ '$' → t.plain c = t.literal c := by
    intro h₁ h₂
    simp only [plain, if_neg h₁, if_neg h₂, ht]
  have hspec := plain_spec (t.raise o (f :: fs)) c
  generalize (t.raise o (f :: fs)).plain c = s' at hspec
  cases hspec with
  | backslash hc =>
    refine .inl ⟨f.bare, ?_⟩
    simp only [plain, if_pos hc]
    exact hold_raise .backslash
  | dollar hc =>
    refine .inl ⟨f.bare, ?_⟩
    subst hc
    exact hold_raise (.name t.offset "")
  | outside _ hf =>
    rw [hr] at hf
    cases hf
  | inside hc =>
    rw [hliteral hc.1 hc.2.1]
    exact .inl ⟨f.bare, literal_raise c⟩
  | openBare hc g gs hg =>
    cases hr.symm.trans hg
    rw [hliteral (by simp [hc]) (by simp [hc]), bracket, literal_raise]
    exact .inl ⟨f.bare + 1, by simp [raise, literal, ht]⟩
  | closeBare hc g gs hg =>
    cases hr.symm.trans hg
    rw [hliteral (by simp [hc]) (by simp [hc]), bracket, literal_raise]
    exact .inl ⟨f.bare - 1, by simp [raise, literal, ht]⟩
  | separate hc g gs hg =>
    cases hr.symm.trans hg
    exact .inr (.inl rfl)
  | close hc g gs hg =>
    cases hr.symm.trans hg
    exact .inr (.inr rfl)

/-- **The two readings go on together** until a separator or a bracket ends the argument. -/
theorem raise_step {f : Frame} {fs : List Frame} {c : Char} {s' : State}
    (h : (t.raise o (f :: fs)).step c = .ok s') :
    (∃ t' bare, t.step c = .ok t' ∧ s' = t'.raise o ({ f with bare } :: fs)) ∨
    t.frames = [] ∧ (s' = (t.raise o (f :: fs)).settle.separate f fs ∨
      s' = (t.raise o (f :: fs)).settle.closeCall f fs) := by
  cases step_spec h with
  | plain hj =>
    have hj : t.pending.joins c = false := (joins_raise t.pending c).symm.trans hj
    rw [raise_settle]
    cases ht : t.frames with
    | cons g gs =>
      exact .inl ⟨_, f.bare, step_of_not_joins hj, plain_raise ((settle_frames t).trans ht) c⟩
    | nil =>
      rcases plain_raise_outside ((settle_frames t).trans ht) f fs c with ⟨bare, hp⟩ | hp | hp
      · exact .inl ⟨_, bare, step_of_not_joins hj, hp⟩
      · exact .inr ⟨rfl, .inl hp⟩
      · exact .inr ⟨rfl, .inr hp⟩
  | unescape hp hc =>
    have hp : t.pending = .backslash := by
      cases ht : t.pending <;> simp_all [raise, Pending.raise]
    refine .inl ⟨t.unescape c, f.bare, (Step.unescape hp hc).step_eq, ?_⟩
    have hstop : t.offset + o + 1 = t.offset + 1 + o := by omega
    simp only [unescape, raise, hstop]
    rfl
  | letter start letters hp hc =>
    obtain ⟨i, hi, rfl⟩ := name_of_raise hp
    refine .inl ⟨t.spell i letters c, f.bare, (Step.letter i letters hi hc).step_eq, ?_⟩
    exact hold_raise (.name i (letters.push c))
  | call start letters hp hl hc hd =>
    obtain ⟨i, hi, rfl⟩ := name_of_raise hp
    have hlen : t.frames.length < maxDepth := by
      simp only [raise, List.length_append, List.length_map] at hd
      omega
    refine .inl ⟨t.openCall ("$" ++ letters) i, f.bare,
      (Step.call i letters hi hl hc hlen).step_eq, ?_⟩
    have hstop : t.offset + o + 1 = t.offset + 1 + o := by omega
    simp only [openCall, raise, hstop]
    rfl

/-! ## Open arguments -/

/-- For every open argument, a run on its text alone has come equally far. -/
def Replays (s : State) : Prop :=
  ∀ inner f fs, s.frames = inner ++ f :: fs →
    ∃ t cs, ({} : State).run cs = .ok t ∧ s = t.raise f.opened (f :: fs)

/-- An argument that begins has nothing to replay. -/
theorem raise_initial (o : Nat) (base : List Frame) :
    ({} : State).raise o base = { frames := base, offset := o } := by
  simp [raise, Region.raise, Node.mapAll, Pending.raise]

theorem length_frames_plain (s : State) (c : Char) :
    (s.plain c).frames.length ≤ s.frames.length := by
  have hp := s.plain_spec c
  generalize s.plain c = s' at hp
  cases hp with
  | backslash | dollar | outside | inside => exact Nat.le_refl _
  | openBare hc f fs hf | closeBare hc f fs hf | separate hc f fs hf =>
    rw [hf]
    exact Nat.le_refl _
  | close hc f fs hf =>
    rw [hf]
    exact Nat.le_succ _

/-- An open call of the state behind a character is open before it, or begins with it. -/
theorem frames_step {s s' : State} {c : Char} (hs : s.step c = .ok s') :
    s'.frames.length ≤ s.frames.length ∨
      ∃ name start, s' = s.openCall name start := by
  cases step_spec hs with
  | plain =>
    have h := length_frames_plain s.settle c
    rw [settle_frames] at h
    exact .inl h
  | unescape | letter => exact .inl (Nat.le_refl _)
  | call start letters => exact .inr ⟨_, _, rfl⟩

theorem exists_split {α : Type} {l : List α} {n : Nat} (h : n < l.length) :
    ∃ a x b, l = a ++ x :: b ∧ b.length = n := by
  have hk : l.length - (n + 1) < l.length := by omega
  refine ⟨l.take (l.length - (n + 1)), l[l.length - (n + 1)], l.drop (l.length - (n + 1) + 1), ?_,
    ?_⟩
  · rw [List.getElem_cons_drop, List.take_append_drop]
  · rw [List.length_drop]
    omega

/-- Every step keeps the runs on open arguments. The open calls are told apart by the number of
those around them. -/
theorem replays_step {s s' : State} {c : Char} (h : s.Replays) (hs : s.step c = .ok s') :
    s'.Replays := by
  intro inner f fs hf
  by_cases hn : fs.length < s.frames.length
  -- The call was open before the step: its argument goes on, or another one of it begins.
  · obtain ⟨outer, g, gs, hg, hlen⟩ := exists_split hn
    obtain ⟨t, cs, hrun, rfl⟩ := h outer g gs hg
    rcases raise_step hs with ⟨t', bare, ht', rfl⟩ | ⟨-, rfl | rfl⟩
    · obtain ⟨-, he⟩ := List.append_inj' hf (by simp [hlen])
      cases he
      refine ⟨t', cs ++ [c], ?_, rfl⟩
      rw [run_append hrun, run_cons ht', run_nil]
    · have hf : [] ++ _ = inner ++ f :: fs := hf
      obtain ⟨-, he⟩ := List.append_inj' hf (by simp [hlen])
      cases he
      exact ⟨{}, [], rfl, (raise_initial _ _).symm⟩
    · have hlen' := congrArg List.length hf
      simp only [closeCall_eq, List.length_append, List.length_cons] at hlen'
      omega
  -- The call begins with the step.
  · rcases frames_step hs with hle | ⟨name, start, rfl⟩
    · rw [hf, List.length_append, List.length_cons] at hle
      omega
    · have hlen := congrArg List.length hf
      simp only [openCall, List.length_append, List.length_cons] at hlen
      have hf : [] ++ _ = inner ++ f :: fs := hf
      obtain ⟨-, he⟩ := List.append_inj' hf (by simp only [List.length_cons]; omega)
      cases he
      exact ⟨{}, [], rfl, (raise_initial _ _).symm⟩

end State

/-! ## Finished arguments -/

/-- The argument can be read by itself, and gives its own nodes. -/
def Argument.Rereads (a : Argument Nat) : Prop :=
  ∃ nodes, readOffsets a.source = .ok nodes ∧ a.nodes = Node.mapAll (· + a.span.start) nodes

namespace State

/-- An argument that ends can be read by itself. -/
theorem rereads_argument {s : State} (h : s.Replays) {f : Frame} {fs : List Frame}
    (hf : s.settle.frames = f :: fs) : (s.settle.argument f).Rereads := by
  rw [settle_frames] at hf
  obtain ⟨t, cs, hrun, hs⟩ := h [] f fs hf
  have ht : t.frames = [] := by
    rw [hs, raise] at hf
    simpa using hf
  have hsource : t.settle.region.source = String.ofList cs := by
    simpa [settle] using source_of_run hrun ht
  have hsettle : s.settle = t.settle.raise f.opened (f :: fs) := by rw [hs, raise_settle]
  refine ⟨t.settle.region.finish, ?_, ?_⟩
  · have hcs : (s.settle.argument f).source.toList = cs := by
      rw [hsettle, ← String.toList_ofList (l := cs), ← hsource]
      rfl
    rw [readOffsets_of_run (hcs ▸ hrun), finish, ht]
  · rw [hsettle]
    exact Region.finish_raise ..

/-- Every open argument replays, and every finished one can be read by itself. -/
theorem rereads_run {s : State} {cs : List Char} (h : ({} : State).run cs = .ok s) :
    s.Founded ∧ s.Replays ∧ ∀ a, .argument a ∈ s.parts → a.Rereads := by
  refine run_invariant
    (P := fun _ s => s.Founded ∧ s.Replays ∧ ∀ a, .argument a ∈ s.parts → a.Rereads)
    (fun _ s c s' ⟨hf, hr, ha⟩ hs => ⟨founded_step hf hs, replays_step hr hs, fun a hm => ?_⟩) []
    ⟨fun _ => rfl, ?_, fun _ hm => by cases hm⟩ h
  · obtain ⟨new, hnew, hparts⟩ := parts_step hf hs
    rw [hparts, List.mem_append] at hm
    rcases hm with hm | hm
    · exact ha a hm
    rcases hnew with rfl | ⟨ended, hended, rfl⟩
    · cases hm
    rcases List.mem_append.1 hm with hm | hm
    · obtain ⟨_, _, -, he⟩ := mem_settled hm
      cases he
    cases hended with
    | nothing => cases hm
    | argument f fs hf' =>
      cases List.mem_singleton.1 hm
      exact rereads_argument hr hf'
    | emptyCall => cases List.mem_singleton.1 hm
    | call f fs hf' =>
      have hm : a = s.settle.argument f := by simpa using hm
      exact hm ▸ rereads_argument hr hf'
  · intro inner f fs hf
    simp at hf

end State

/-- Every argument of a script, at any depth, can be read by itself, and gives its own nodes. -/
theorem reread_arguments {source : String} {nodes : List (Node Nat)}
    (h : readOffsets source = .ok nodes) {a : Argument Nat}
    (ha : .argument a ∈ Node.partsAll nodes) : a.Rereads := by
  obtain ⟨s, hr, hf⟩ := readOffsets_ok h
  rw [State.parts_finish hf, State.parts_settle, List.mem_append] at ha
  rcases ha with ha | ha
  · exact (State.rereads_run hr).2.2 a ha
  · obtain ⟨_, _, -, he⟩ := State.mem_settled ha
    cases he

/-- **An argument read by itself gives its own nodes**, with every position smaller by the offset
at which the argument begins. -/
theorem read_source {source : String} {nodes : List (Node Location)}
    (h : read source = .ok nodes) {a : Argument Location}
    (ha : .argument a ∈ Node.partsAll nodes) :
    ∃ nodes', read a.source = .ok nodes' ∧
      Node.mapAll (·.offset) a.nodes =
        Node.mapAll (fun l => l.offset + a.span.start.offset) nodes' := by
  have hm : .argument (a.map (·.offset)) ∈ Node.partsAll (Node.mapAll (·.offset) nodes) := by
    rw [Node.partsAll_map]
    exact List.mem_map.2 ⟨.argument a, ha, rfl⟩
  obtain ⟨ns, hns, ha'⟩ : ∃ ns, readOffsets a.source = .ok ns ∧
      Node.mapAll (·.offset) a.nodes = Node.mapAll (· + a.span.start.offset) ns := by
    have hr := reread_arguments (mapAll_offset_read h) hm
    rwa [Argument.map_eq] at hr
  obtain ⟨nodes', hn⟩ := exists_read hns
  refine ⟨nodes', hn, ?_⟩
  cases hns.symm.trans (mapAll_offset_read hn)
  rw [ha', Node.mapAll_mapAll]
  rfl

/-- In its place the argument of `$a` counts the bare brackets, by itself it does not; the text is
the same. -/
theorem read_source_bare_brackets :
    ∃ (nodes : List (Node Location)) (a : Argument Location),
      read "é$a[x[;]]" = .ok nodes ∧ .argument a ∈ Node.partsAll nodes ∧ a.source = "x[;]" ∧
      ∃ nodes', read a.source = .ok nodes' ∧
        Node.mapAll (·.offset) a.nodes =
          Node.mapAll (fun l => l.offset + a.span.start.offset) nodes' := by
  have ho : readOffsets "é$a[x[;]]" =
      .ok [.text "é", .call "$a" [⟨[.text "x[;]"], "x[;]", ⟨5, 9⟩⟩] ⟨2, 10⟩] := rfl
  obtain ⟨nodes, hn⟩ := exists_read ho
  have hnodes := Except.ok.inj (ho.symm.trans (mapAll_offset_read hn))
  have hm : .argument ⟨[.text "x[;]"], "x[;]", ⟨5, 9⟩⟩ ∈
      (Node.partsAll nodes).map (Part.map (·.offset)) := by
    rw [← Node.partsAll_map, ← hnodes]
    exact .head _
  obtain ⟨p, hp, ha⟩ := List.mem_map.1 hm
  cases p with
  | mention | call => cases ha
  | argument a =>
    refine ⟨nodes, a, hn, hp, ?_, read_source hn hp⟩
    have ha := Part.argument.inj ha
    rw [Argument.map_eq] at ha
    exact congrArg (·.source) ha

end CanvasScript.Script
