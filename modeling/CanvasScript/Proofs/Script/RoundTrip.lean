import CanvasScript.Command.Definition
import CanvasScript.Proofs.Script.Positions
import CanvasScript.Script.Writing

/-!
# Reading what was written

Nodes that are written as a script and read again come back, if reading could have given them in
the first place.

* `Node.allNormal`: the nodes that reading can give. Text is not empty and not split, a name is a
  name and ends where the text behind it begins, and no call has a lone argument without nodes.
* `Node.respellAll`: the same nodes, each argument spelt as it is written.
* `State.Reads`: a run over a text that adds nodes to the region it stands in.

Results:
* `Node.reads_all`: the reader, wherever it stands, reads written nodes back, as long as no call
  gets too deep.
* `read_writeAll`: what was written as a whole script is read back.
-/

namespace CanvasScript.Script

variable {π : Type}

/-! ## Normal form -/

/-- The node is literal text. -/
def Node.isText : Node π → Bool
  | .text _ => true
  | _ => false

/-- The node is a name without brackets. -/
def Node.isMention : Node π → Bool
  | .mention _ _ => true
  | _ => false

/-- The node can stand right before the others. Texts next to each other would be one, and a name
would go on into a text. -/
def Node.mayPrecede : Node π → List (Node π) → Bool
  | .text _, .text _ :: _ => false
  | .mention _ _, .text content :: _ => !content.toList.head?.any continuesName
  | _, _ => true

/-- Brackets with nothing between them hold no argument, so that a lone one has nodes. -/
def Argument.loneEmpty : List (Argument π) → Bool
  | [⟨[], _, _⟩] => true
  | _ => false

mutual

/-- Reading can give this node. -/
def Node.isNormal : Node π → Bool
  | .text content => !content.isEmpty
  | .mention name _ => Command.Definition.isName name
  | .call name arguments _ =>
    Command.Definition.isName name && !Argument.loneEmpty arguments &&
      Argument.allNormal arguments

/-- Reading can give this argument. -/
def Argument.isNormal : Argument π → Bool
  | ⟨nodes, _, _⟩ => Node.allNormal nodes

/-- Reading can give these arguments. -/
def Argument.allNormal : List (Argument π) → Bool
  | [] => true
  | a :: as => a.isNormal && Argument.allNormal as

/-- Reading can give these nodes. -/
def Node.allNormal : List (Node π) → Bool
  | [] => true
  | n :: ns => n.isNormal && n.mayPrecede ns && Node.allNormal ns

end

mutual

/-- How deep the calls with brackets are nested in a node. -/
def Node.depth : Node π → Nat
  | .call _ arguments _ => Argument.depthAll arguments + 1
  | _ => 0

/-- How deep the calls with brackets are nested in an argument. -/
def Argument.depth : Argument π → Nat
  | ⟨nodes, _, _⟩ => Node.depthAll nodes

/-- How deep the calls with brackets are nested in arguments. -/
def Argument.depthAll : List (Argument π) → Nat
  | [] => 0
  | a :: as => max a.depth (Argument.depthAll as)

/-- How deep the calls with brackets are nested in nodes. -/
def Node.depthAll : List (Node π) → Nat
  | [] => 0
  | n :: ns => max n.depth (Node.depthAll ns)

end

mutual

/-- A node without positions, spelt as it is written. -/
def Node.respell : Node π → Node Unit
  | .text content => .text content
  | .mention name _ => .mention name ⟨(), ()⟩
  | .call name arguments _ => .call name (Argument.respellAll arguments) ⟨(), ()⟩

/-- An argument without positions, spelt as it is written. -/
def Argument.respell : Argument π → Argument Unit
  | ⟨nodes, _, _⟩ => ⟨Node.respellAll nodes, Node.writeAll nodes, ⟨(), ()⟩⟩

/-- Arguments without positions, spelt as they are written. -/
def Argument.respellAll : List (Argument π) → List (Argument Unit)
  | [] => []
  | a :: as => a.respell :: Argument.respellAll as

/-- Nodes without positions, spelt as they are written. -/
def Node.respellAll : List (Node π) → List (Node Unit)
  | [] => []
  | n :: ns => n.respell :: Node.respellAll ns

end

/-! ## Names -/

theorem exists_letters {name : String} (h : Command.Definition.isName name = true) :
    ∃ letters, name = "$" ++ String.ofList letters ∧ letters.head?.any startsName = true ∧
      ∀ d ∈ letters, continuesName d = true := by
  unfold Command.Definition.isName at h
  split at h
  · rename_i c cs hname
    rw [Bool.and_eq_true, List.all_eq_true] at h
    refine ⟨c :: cs, ?_, h.1, h.2⟩
    rw [← String.ofList_toList (s := name), hname, String.ofList_cons]
    rfl
  · cases h

/-! ## What is written first -/

/-- Nothing that is written begins with an opening bracket, and only text begins with a letter. -/
theorem head_writeAll {n : Node π} {ns : List (Node π)} (h : Node.allNormal (n :: ns) = true) :
    ∃ c cs, (Node.writeAll (n :: ns)).toList = c :: cs ∧ c ≠ '[' ∧
      ∀ m : Node π, m.isMention = true → m.mayPrecede (n :: ns) = true →
        continuesName c = false := by
  rw [Node.allNormal, Bool.and_eq_true, Bool.and_eq_true] at h
  rw [Node.writeAll, String.toList_append]
  cases n with
  | text content =>
    cases hc : content.toList with
    | nil =>
      rw [String.toList_eq_nil_iff] at hc
      simp [Node.isNormal, hc] at h
    | cons c cs =>
      rw [Node.write, escape, String.toList_ofList, hc, List.flatMap_cons, List.append_assoc]
      by_cases hs : isSpecial c = true
      · rw [escapeChar, if_pos hs]
        exact ⟨'\\', _, rfl, by decide, fun _ _ _ => by decide⟩
      · rw [escapeChar, if_neg hs]
        refine ⟨c, _, rfl, ?_, fun m hm hp => ?_⟩
        · rintro rfl
          exact hs (by decide)
        · cases m with
          | mention => simpa [Node.mayPrecede, hc] using hp
          | text | call => cases hm
  | mention name span =>
    obtain ⟨letters, rfl, -⟩ := exists_letters h.1.1
    rw [Node.write, String.toList_append]
    exact ⟨'$', _, rfl, by decide, fun _ _ _ => by decide⟩
  | call name arguments span =>
    rw [Node.isNormal, Bool.and_eq_true, Bool.and_eq_true] at h
    obtain ⟨letters, rfl, -⟩ := exists_letters h.1.1.1.1
    rw [Node.write, String.append_assoc, String.append_assoc, String.append_assoc,
      String.toList_append]
    exact ⟨'$', _, rfl, by decide, fun _ _ _ => by decide⟩

theorem isText_eq_false {n m : Node π} {ns : List (Node π)} (h : n.mayPrecede (m :: ns) = true)
    (hm : m.isText = true) : n.isText = false := by
  cases m with
  | text =>
    cases n with
    | text => cases h
    | mention | call => rfl
  | mention | call => cases hm

theorem writeAll_ne_empty {ns : List (Node π)} (h : Node.allNormal ns = true) (hn : ns ≠ []) :
    Node.writeAll ns ≠ "" := by
  obtain ⟨n, ns, rfl⟩ := List.exists_cons_of_ne_nil hn
  obtain ⟨c, cs, hc, -⟩ := head_writeAll h
  intro he
  rw [he] at hc
  cases hc

/-! ## Regions -/

namespace Region

/-- The nodes of a region, without positions. -/
def bare (r : Region) : List (Node Unit) :=
  Node.bare r.finish

@[simp] theorem literal_flush (r : Region) : r.flush.literal = "" := by
  unfold flush
  split
  · rename_i h
    rwa [String.isEmpty_iff] at h
  · rfl

@[simp] theorem literal_push (r : Region) (n : Node Nat) (source : String) :
    (r.push n source).literal = "" := by
  simp [push]

theorem finish_of_literal {r : Region} (h : r.literal = "") : r.finish = r.nodes.reverse := by
  simp [finish, flush, h]

theorem bare_push (r : Region) (n : Node Nat) (source : String) :
    (r.push n source).bare = r.bare ++ [n.map fun _ => ()] := by
  have h : (r.push n source).finish = r.finish ++ [n] := by
    rw [finish_of_literal (literal_push ..)]
    simp [push, finish]
  rw [bare, h, Node.bare, Node.mapAll_eq_map, List.map_append, ← Node.mapAll_eq_map]
  rfl

end Region

/-! ## Reading nodes -/

namespace State

/-- From `s` the text is read as the nodes, in the region that `s` stands in. -/
structure Reads (s : State) (text : List Char) (nodes : List (Node Unit)) (s' : State) : Prop where
  run : s.run text = .ok s'
  frames : s'.frames = s.frames
  bare : s'.settle.region.bare = s.settle.region.bare ++ nodes

/-- A separator or a closing bracket ends what is pending. -/
def Ready (s : State) : Prop :=
  ∀ c, s.pending.joins c = true → continuesName c = true ∨ c = '['

theorem ready_of_nothing {s : State} (h : s.pending = .nothing) : s.Ready := by
  intro c hc
  rw [h] at hc
  cases hc

theorem ready_named (s : State) {letters : List Char} (hl : letters ≠ []) :
    (s.named letters).Ready := by
  intro c hc
  rw [joins_named s hl] at hc
  simpa using hc

namespace Reads

variable {s s' s'' : State} {text text' : List Char} {nodes nodes' : List (Node Unit)}

theorem nil (s : State) : s.Reads [] [] s :=
  ⟨rfl, rfl, (List.append_nil _).symm⟩

theorem append (h : s.Reads text nodes s') (h' : s'.Reads text' nodes' s'') :
    s.Reads (text ++ text') (nodes ++ nodes') s'' where
  run := (run_append h.run _).trans h'.run
  frames := h'.frames.trans h.frames
  bare := by rw [h'.bare, h.bare, List.append_assoc]

theorem of_settle {c : Char} (hc : s.pending.joins c = false)
    (h : s.settle.Reads (c :: text) nodes s') : s.Reads (c :: text) nodes s' where
  run := (run_settle hc _).trans h.run
  frames := h.frames.trans s.settle_frames
  bare := by rw [h.bare, settle_settle]

end Reads

/-! ### Text -/

/-- An escaped character is read as the character. -/
theorem run_escapeChar {s : State} (hp : s.pending = .nothing) (c : Char) :
    ∃ s', s.run (escapeChar c) = .ok s' ∧ s'.frames = s.frames ∧ s'.pending = .nothing ∧
      s'.region.nodes = s.region.nodes ∧
      s'.region.literal = s.region.literal ++ String.singleton c := by
  by_cases hc : isSpecial c = true
  · have hfirst : s.step '\\' = .ok (s.hold .backslash) := by
      rw [step, hp]
      rfl
    have hnext := (Step.unescape (s := s.hold .backslash) rfl hc).step_eq
    refine ⟨(s.hold .backslash).unescape c, ?_, rfl, rfl, rfl, rfl⟩
    rw [escapeChar, if_pos hc, run_cons hfirst, run_cons hnext, run_nil]
  · have hstep : s.step c = .ok (s.literal c) := by
      rw [step, hp, plain_of_not_special (by simpa using hc)]
    refine ⟨s.literal c, ?_, rfl, hp, rfl, rfl⟩
    rw [escapeChar, if_neg hc, run_cons hstep, run_nil]

/-- Escaped text is read as the text. -/
theorem run_escape {s : State} (hp : s.pending = .nothing) (cs : List Char) :
    ∃ s', s.run (cs.flatMap escapeChar) = .ok s' ∧ s'.frames = s.frames ∧ s'.pending = .nothing ∧
      s'.region.nodes = s.region.nodes ∧
      s'.region.literal = s.region.literal ++ String.ofList cs := by
  induction cs generalizing s with
  | nil => exact ⟨s, rfl, rfl, hp, rfl, by simp⟩
  | cons c cs ih =>
    obtain ⟨s₁, hr₁, hf₁, hp₁, hn₁, hl₁⟩ := run_escapeChar hp c
    obtain ⟨s₂, hr₂, hf₂, hp₂, hn₂, hl₂⟩ := ih hp₁
    refine ⟨s₂, ?_, hf₂.trans hf₁, hp₂, hn₂.trans hn₁, ?_⟩
    · rw [List.flatMap_cons, run_append hr₁, hr₂]
    · rw [hl₂, hl₁, String.append_assoc, String.ofList_cons]

theorem reads_text {s : State} (hp : s.pending = .nothing) (hl : s.region.literal = "")
    {content : String} (hc : content.isEmpty = false) :
    ∃ s', s.Reads (escape content).toList [.text content] s' ∧ s'.pending = .nothing := by
  obtain ⟨s', hr, hf, hp', hn, hl'⟩ := run_escape hp content.toList
  rw [hl, String.empty_append, String.ofList_toList] at hl'
  refine ⟨s', ⟨?_, hf, ?_⟩, hp'⟩
  · rw [escape, String.toList_ofList, hr]
  · rw [settle_of_nothing hp, settle_of_nothing hp', Region.bare, Region.bare,
      Region.finish_of_literal hl]
    simp [Region.finish, Region.flush, hl', hn, hc, Node.bare, Node.mapAll_eq_map, Node.map]

/-! ### Names -/

theorem reads_mention {s : State} (hp : s.pending = .nothing) {letters : List Char}
    (hs : letters.head?.any startsName = true) (hl : ∀ d ∈ letters, continuesName d = true) :
    s.Reads ("$" ++ String.ofList letters).toList [.mention ("$" ++ String.ofList letters) ⟨(), ()⟩]
      (s.named letters) ∧ (s.named letters).settle.region.literal = "" := by
  have hne := isEmpty_ofList (ne_nil_of_startsName hs)
  have hregion : (s.named letters).settle.region =
      s.region.push (.mention ("$" ++ String.ofList letters)
        ⟨s.offset, s.offset + 1 + letters.length⟩) ("$" ++ String.ofList letters) := by
    simp [named, settle, hne]
  refine ⟨⟨?_, rfl, ?_⟩, ?_⟩
  · have h := run_name hp hs hl []
    rw [List.append_nil] at h
    rw [String.toList_append, String.toList_ofList (l := letters)]
    exact h
  · rw [hregion, Region.bare_push, settle_of_nothing hp]
    rfl
  · rw [hregion, Region.literal_push]

/-! ### Calls -/

theorem Ready.run_separate {s : State} (h : s.Ready) {f : Frame} {fs : List Frame}
    (hf : s.frames = f :: fs) (hb : f.bare = 0) : s.run [';'] = .ok (s.settle.separate f fs) := by
  have hj : s.pending.joins ';' = false := by
    rw [← Bool.not_eq_true]
    intro hc
    exact absurd (h _ hc) (by decide)
  rw [run_cons (step_of_not_joins hj), run_nil]
  simp [plain, hf, hb]

theorem Ready.run_close {s : State} (h : s.Ready) {f : Frame} {fs : List Frame}
    (hf : s.frames = f :: fs) (hb : f.bare = 0) : s.run [']'] = .ok (s.settle.closeCall f fs) := by
  have hj : s.pending.joins ']' = false := by
    rw [← Bool.not_eq_true]
    intro hc
    exact absurd (h _ hc) (by decide)
  rw [run_cons (step_of_not_joins hj), run_nil]
  simp [plain, hf, hb]

/-- The reader stands at the beginning of an argument of the innermost call. -/
structure Begins (s : State) (f : Frame) (fs : List Frame) : Prop where
  frames : s.frames = f :: fs
  bare : f.bare = 0
  pending : s.pending = .nothing
  region : s.region = {}

/-- A name with a bracket behind it opens a call, and its first argument begins. -/
theorem opens_call {s : State} (hp : s.pending = .nothing) {letters : List Char}
    (hs : letters.head?.any startsName = true) (hl : ∀ d ∈ letters, continuesName d = true)
    (hd : s.frames.length < maxDepth) :
    ∃ (t : State) (f : Frame),
      (∀ rest, s.run (("$" ++ String.ofList letters).toList ++ '[' :: rest) = t.run rest) ∧
      t.Begins f s.frames ∧ f.outer = s.region ∧ f.name = "$" ++ String.ofList letters ∧
      f.arguments = [] := by
  have hne := ne_nil_of_startsName hs
  have hb := step_bracket (s := s) hne
  rw [if_neg (Nat.not_le_of_lt hd)] at hb
  refine ⟨(s.named letters).openCall _ s.offset,
    { outer := s.region, name := _, start := s.offset, opened := _ },
    fun rest => ?_, ⟨rfl, rfl, rfl, rfl⟩, rfl, rfl, rfl⟩
  have hrun := run_name hp hs hl ('[' :: rest)
  rw [run_cons hb] at hrun
  rw [String.toList_append, String.toList_ofList (l := letters)]
  exact hrun

theorem begins_separate (s : State) (f : Frame) (fs : List Frame) :
    (s.separate f fs).Begins
      { f with arguments := s.argument f :: f.arguments, opened := s.offset + 1, bare := 0 } fs :=
  ⟨rfl, rfl, rfl, rfl⟩

/-- The call of a frame has ended, with these arguments. -/
structure Ended (s : State) (f : Frame) (fs : List Frame) (arguments : List (Argument Unit)) :
    Prop where
  frames : s.frames = fs
  pending : s.pending = .nothing
  region : ∃ as span source, s.region = f.outer.push (.call f.name as span) source ∧
    Argument.mapAll (fun _ => ()) as = arguments

/-- The argument that was read from its beginning on. -/
theorem Begins.argument {s s' : State} {f : Frame} {fs : List Frame} (h : s.Begins f fs)
    {ns : List (Node π)}
    (hr : s.Reads (Node.writeAll ns).toList (Node.respellAll ns) s') :
    s'.settle.region.source = Node.writeAll ns ∧
      (s'.settle.argument f).map (fun _ => ()) =
        ⟨Node.respellAll ns, Node.writeAll ns, ⟨(), ()⟩⟩ := by
  have hs : s.settle.region = {} := by
    rw [settle_of_nothing h.pending, h.region]
  have hsource := source_of_run hr.run hr.frames
  rw [hs, String.ofList_toList, String.empty_append] at hsource
  have hbare : Node.bare s'.settle.region.finish = Node.respellAll ns := by
    have hb := hr.bare
    rw [hs] at hb
    exact hb
  refine ⟨hsource, ?_⟩
  rw [Argument.map_eq, State.argument, hsource]
  simp only [Span.map, ← hbare, Node.bare]

theorem Begins.ended_empty {s : State} {f : Frame} {fs : List Frame} (h : s.Begins f fs)
    (ha : f.arguments = []) : (s.settle.closeCall f fs).Ended f fs [] where
  frames := rfl
  pending := rfl
  region := by
    rw [closeCall_eq, closing, settle_of_nothing h.pending, h.region, ha]
    exact ⟨[], _, _, rfl, rfl⟩

theorem ended_closeCall {s : State} {f : Frame} (fs : List Frame)
    (hn : f.arguments ≠ [] ∨ s.region.source ≠ "") :
    (s.closeCall f fs).Ended f fs
      (Argument.mapAll (fun _ => ()) f.arguments.reverse ++ [(s.argument f).map fun _ => ()]) where
  frames := rfl
  pending := rfl
  region := by
    have hc : s.closing f = (s.argument f :: f.arguments).reverse := by
      rw [closing, if_neg]
      rw [Bool.and_eq_true, List.isEmpty_iff, String.isEmpty_iff]
      rintro ⟨h₁, h₂⟩
      rcases hn with hn | hn
      · exact hn h₁
      · exact hn h₂
    rw [closeCall_eq, hc]
    refine ⟨_, _, _, rfl, ?_⟩
    rw [Argument.mapAll_eq_map, Argument.mapAll_eq_map, List.reverse_cons, List.map_append]
    rfl

/-- A call that has ended is a node of the region that it stands in. -/
theorem Ended.reads {s s' : State} {f : Frame} {arguments : List (Argument Unit)}
    (h : s'.Ended f s.frames arguments) (hp : s.pending = .nothing) (ho : f.outer = s.region)
    {text : List Char} (hr : s.run text = .ok s') :
    s.Reads text [.call f.name arguments ⟨(), ()⟩] s' ∧ s'.region.literal = "" := by
  obtain ⟨as, span, source, hregion, has⟩ := h.region
  refine ⟨⟨hr, h.frames, ?_⟩, ?_⟩
  · rw [settle_of_nothing h.pending, settle_of_nothing hp, hregion, Region.bare_push, Node.map, has,
      ho]
  · rw [hregion, Region.literal_push]

end State

/-! ## Reading written nodes -/

mutual

/-- A node that was written is read back. -/
theorem Node.reads : ∀ (n : Node π) (s : State), n.isNormal = true → s.pending = .nothing →
    (n.isText = true → s.region.literal = "") → s.frames.length + n.depth ≤ maxDepth →
    ∃ s', s.Reads n.write.toList [n.respell] s' ∧ s'.Ready ∧
      (n.isMention = false → s'.pending = .nothing) ∧
      (n.isText = false → s'.settle.region.literal = "")
  | .text content, s, hn, hp, hl, _ => by
    have hc : content.isEmpty = false := by simpa [Node.isNormal] using hn
    obtain ⟨s', hr, hp'⟩ := State.reads_text hp (hl rfl) hc
    exact ⟨s', hr, State.ready_of_nothing hp', fun _ => hp', nofun⟩
  | .mention name span, s, hn, hp, _, _ => by
    obtain ⟨letters, rfl, hs, hl⟩ := exists_letters hn
    obtain ⟨hr, hlit⟩ := State.reads_mention hp hs hl
    exact ⟨_, hr, State.ready_named s (ne_nil_of_startsName hs), nofun, fun _ => hlit⟩
  | .call name arguments span, s, hn, hp, _, hd => by
    rw [Node.isNormal, Bool.and_eq_true, Bool.and_eq_true] at hn
    rw [Node.depth] at hd
    obtain ⟨letters, rfl, hs, hl⟩ := exists_letters hn.1.1
    obtain ⟨t, f, hopen, hb, houter, hname, hargs⟩ := State.opens_call hp hs hl (by omega)
    obtain ⟨s', hr, he⟩ : ∃ s',
        t.run (";".intercalate (Argument.writeAll arguments) ++ "]").toList = .ok s' ∧
          s'.Ended f s.frames (Argument.respellAll arguments) := by
      by_cases ha : arguments = []
      · subst ha
        refine ⟨_, ?_, hb.ended_empty hargs⟩
        rw [Argument.writeAll, String.intercalate_nil, String.empty_append]
        exact (State.ready_of_nothing hb.pending).run_close hb.frames hb.bare
      · have hd' : t.frames.length + Argument.depthAll arguments ≤ maxDepth := by
          rw [hb.frames, List.length_cons]
          omega
        have hlone : Argument.loneEmpty arguments = false := by simpa using hn.1.2
        have h := Argument.reads_all arguments t f s.frames hn.2 ha hb hd' fun _ => hlone
        rwa [hargs] at h
    have hrun : s.run (Node.write (.call ("$" ++ String.ofList letters) arguments span)).toList =
        .ok s' := by
      rw [← hr, ← hopen, Node.write]
      simp
    obtain ⟨hreads, hlit⟩ := he.reads hp houter hrun
    rw [hname] at hreads
    refine ⟨s', hreads, State.ready_of_nothing he.pending, fun _ => he.pending, fun _ => ?_⟩
    rw [State.settle_of_nothing he.pending, hlit]

/-- Arguments that were written, up to the end of the call, are read back. -/
theorem Argument.reads_all : ∀ (as : List (Argument π)) (s : State) (f : Frame) (fs : List Frame),
    Argument.allNormal as = true → as ≠ [] → s.Begins f fs →
    s.frames.length + Argument.depthAll as ≤ maxDepth →
    (f.arguments = [] → Argument.loneEmpty as = false) →
    ∃ s', s.run (";".intercalate (Argument.writeAll as) ++ "]").toList = .ok s' ∧
      s'.Ended f fs
        (Argument.mapAll (fun _ => ()) f.arguments.reverse ++ Argument.respellAll as)
  | [], _, _, _, _, hne, _, _, _ => absurd rfl hne
  | [⟨ns, source, span⟩], s, f, fs, hn, _, hb, hd, he => by
    simp only [Argument.allNormal, Argument.isNormal, Bool.and_true] at hn
    simp only [Argument.depthAll, Argument.depth] at hd
    obtain ⟨s₁, hr, hready⟩ := Node.reads_all ns s hn hb.pending (by simp [hb.region]) (by omega)
    obtain ⟨hsource, hargument⟩ := hb.argument hr
    refine ⟨s₁.settle.closeCall f fs, ?_, ?_⟩
    · rw [Argument.writeAll, Argument.writeAll, String.intercalate_singleton, Argument.write,
        String.toList_append, State.run_append hr.run]
      exact hready.run_close (hr.frames.trans hb.frames) hb.bare
    · rw [Argument.respellAll, Argument.respellAll, Argument.respell, ← hargument]
      refine State.ended_closeCall fs ?_
      rw [hsource]
      by_cases ha : f.arguments = []
      · refine .inr (writeAll_ne_empty hn ?_)
        rintro rfl
        exact absurd (he ha) (by simp [Argument.loneEmpty])
      · exact .inl ha
  | ⟨ns, source, span⟩ :: b :: bs, s, f, fs, hn, _, hb, hd, _ => by
    rw [Argument.allNormal, Argument.isNormal, Bool.and_eq_true] at hn
    rw [Argument.depthAll, Argument.depth] at hd
    obtain ⟨s₁, hr, hready⟩ := Node.reads_all ns s hn.1 hb.pending (by simp [hb.region]) (by omega)
    obtain ⟨-, hargument⟩ := hb.argument hr
    have hb' := State.begins_separate s₁.settle f fs
    obtain ⟨s', hr', he'⟩ := Argument.reads_all (b :: bs) _ _ _ hn.2 (by simp) hb' (by
      rw [hb'.frames]
      rw [hb.frames] at hd
      simp only [List.length_cons] at hd ⊢
      omega) nofun
    refine ⟨s', ?_, he'.frames, he'.pending, ?_⟩
    · have hsemicolon := hready.run_separate (hr.frames.trans hb.frames) hb.bare
      rw [Argument.writeAll, Argument.writeAll, String.intercalate_cons_cons, Argument.write,
        String.append_assoc, String.append_assoc, String.toList_append, State.run_append hr.run,
        String.toList_append]
      exact (State.run_append hsemicolon _).trans hr'
    · obtain ⟨as, span', source', hregion, has⟩ := he'.region
      have hrespell : Argument.respellAll (⟨ns, source, span⟩ :: b :: bs) =
          (s₁.settle.argument f).map (fun _ => ()) :: Argument.respellAll (b :: bs) := by
        rw [hargument]
        rfl
      refine ⟨as, span', source', hregion, ?_⟩
      rw [has, hrespell, Argument.mapAll_eq_map, Argument.mapAll_eq_map, List.reverse_cons,
        List.map_append, List.append_assoc]
      rfl

/-- Nodes that were written are read back. -/
theorem Node.reads_all : ∀ (ns : List (Node π)) (s : State), Node.allNormal ns = true →
    s.pending = .nothing → (ns.head?.any Node.isText = true → s.region.literal = "") →
    s.frames.length + Node.depthAll ns ≤ maxDepth →
    ∃ s', s.Reads (Node.writeAll ns).toList (Node.respellAll ns) s' ∧ s'.Ready
  | [], s, _, hp, _, _ => ⟨s, .nil s, State.ready_of_nothing hp⟩
  | n :: ns, s, hn, hp, hl, hd => by
    rw [Node.depthAll] at hd
    have hnormal := hn
    rw [Node.allNormal, Bool.and_eq_true, Bool.and_eq_true] at hnormal
    obtain ⟨⟨hfirst, hprecede⟩, hrest⟩ := hnormal
    obtain ⟨s₁, hr, hready, hmention, hlit⟩ :=
      Node.reads n s hfirst hp (by simpa using hl) (by omega)
    cases ns with
    | nil =>
      refine ⟨s₁, ?_, hready⟩
      simpa [Node.writeAll, Node.respellAll] using hr
    | cons m ms =>
      have hlit' : (m :: ms).head?.any Node.isText = true → s₁.settle.region.literal = "" :=
        fun hm => hlit (isText_eq_false hprecede (by simpa using hm))
      have hd' : s₁.settle.frames.length + Node.depthAll (m :: ms) ≤ maxDepth := by
        rw [State.settle_frames, hr.frames]
        omega
      obtain ⟨s', hr', hready'⟩ :=
        Node.reads_all (m :: ms) s₁.settle hrest s₁.settle_pending hlit' hd'
      -- The name before the other nodes, if there is one, ends where they begin.
      obtain ⟨c, cs, hc, hbracket, hletter⟩ := head_writeAll hrest
      have hj : s₁.pending.joins c = false := by
        cases hm : n.isMention with
        | false =>
          rw [hmention hm]
          rfl
        | true =>
          rw [← Bool.not_eq_true]
          intro hj
          rcases hready c hj with h | h
          · rw [hletter n hm hprecede] at h
            cases h
          · exact hbracket h
      rw [hc] at hr'
      have hall := hr.append (hr'.of_settle hj)
      rw [← hc, ← String.toList_append] at hall
      exact ⟨s', hall, hready'⟩

end

/-- **What was written is read back.** Nodes in normal form, with calls nested no deeper than a
script may nest them, can be read once they are written; reading gives the same nodes up to
positions, each argument with the text that it was written as. -/
theorem read_writeAll {nodes : List (Node π)} (hn : Node.allNormal nodes = true)
    (hd : Node.depthAll nodes ≤ maxDepth) :
    ∃ nodes', read (Node.writeAll nodes) = .ok nodes' ∧
      Node.bare nodes' = Node.respellAll nodes := by
  have hd' : ({} : State).frames.length + Node.depthAll nodes ≤ maxDepth := by
    rw [List.length_nil, Nat.zero_add]
    exact hd
  obtain ⟨s, hr, -⟩ := Node.reads_all nodes {} hn rfl (fun _ => rfl) hd'
  have ho : readOffsets (Node.writeAll nodes) = .ok s.settle.region.finish := by
    rw [readOffsets_of_run hr.run, State.finish, hr.frames]
  obtain ⟨nodes', hnodes⟩ := exists_read ho
  refine ⟨nodes', hnodes, ?_⟩
  have hfinish := Except.ok.inj (ho.symm.trans (mapAll_offset_read hnodes))
  have hb := hr.bare
  rw [Region.bare, hfinish, Node.bare_mapAll] at hb
  exact hb

/-- A name before a `[` that is text, an empty argument before a separator, and a script inside a
script. -/
theorem read_writeAll_bracket_behind_name :
    let nodes : List (Node Unit) :=
      [.text "\\", .mention "$a" ⟨(), ()⟩, .text "[x;", .call "$b"
        [⟨[], "", ⟨(), ()⟩⟩, ⟨[.call "$c" [] ⟨(), ()⟩, .mention "$d" ⟨(), ()⟩], "", ⟨(), ()⟩⟩]
        ⟨(), ()⟩]
    Node.writeAll nodes = "\\\\$a\\[x\\;$b[;$c[]$d]" ∧ Node.allNormal nodes = true ∧
      Node.depthAll nodes ≤ maxDepth ∧
      ∃ nodes', read (Node.writeAll nodes) = .ok nodes' ∧
        Node.bare nodes' = Node.respellAll nodes :=
  ⟨by decide, by decide, by decide, read_writeAll (by decide) (by decide)⟩

end CanvasScript.Script
