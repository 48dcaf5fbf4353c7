import CanvasScript.Proofs.Script.Step

/-!
# What the reader has read

The reader holds a tree in the making. Two views of it only ever grow at their end.

* `State.written`: the text read so far, put together from the regions, the open calls and what is
  pending (`written_step`).
* `Part`: a mention, an argument or a call of a tree. `Node.parts` lists those of a tree in the
  order in which they end, those inside a part before it; `State.parts` lists those that the reader
  has finished.
* `Node.names`: the names of all calls of a tree, with brackets or without.
* `Finishes`, `parts_step`: the parts that one character finishes.

Results:
* `source_of_run`: a run that comes back to the open calls it began with has added exactly its
  characters to the source of the region.
* `parts_finish`: the parts of the finished tree are those of the last state.
-/

namespace CanvasScript.Script

variable {π ρ : Type}

/-! ## Parts of a tree -/

/-- What a tree is made of, apart from its literal text. -/
inductive Part (π : Type) where
  | mention (name : String) (span : Span π)
  | argument (a : Argument π)
  | call (name : String) (arguments : List (Argument π)) (span : Span π)

namespace Part

/-- Where the part stands. -/
def span : Part π → Span π
  | mention _ span => span
  | argument a => a.span
  | call _ _ span => span

/-- A part with its positions mapped. -/
def map (f : π → ρ) : Part π → Part ρ
  | mention name span => .mention name (span.map f)
  | argument a => .argument (a.map f)
  | call name arguments span => .call name (Argument.mapAll f arguments) (span.map f)

end Part

mutual

/-- The parts of a node in the order in which they end. -/
def Node.parts : Node π → List (Part π)
  | .text _ => []
  | .mention name span => [.mention name span]
  | .call name arguments span => Argument.partsAll arguments ++ [.call name arguments span]

/-- The parts of an argument, the argument itself last. -/
def Argument.parts : Argument π → List (Part π)
  | ⟨nodes, source, span⟩ => Node.partsAll nodes ++ [.argument ⟨nodes, source, span⟩]

/-- The parts of arguments. -/
def Argument.partsAll : List (Argument π) → List (Part π)
  | [] => []
  | a :: as => a.parts ++ Argument.partsAll as

/-- The parts of nodes. -/
def Node.partsAll : List (Node π) → List (Part π)
  | [] => []
  | n :: ns => n.parts ++ Node.partsAll ns

end

theorem Argument.parts_eq (a : Argument π) :
    a.parts = Node.partsAll a.nodes ++ [.argument a] := by
  cases a
  rfl

theorem Node.partsAll_append (ns ms : List (Node π)) :
    Node.partsAll (ns ++ ms) = Node.partsAll ns ++ Node.partsAll ms := by
  induction ns with
  | nil => rfl
  | cons n ns ih => simp only [List.cons_append, Node.partsAll, ih, List.append_assoc]

theorem Argument.partsAll_append (as bs : List (Argument π)) :
    Argument.partsAll (as ++ bs) = Argument.partsAll as ++ Argument.partsAll bs := by
  induction as with
  | nil => rfl
  | cons a as ih => simp only [List.cons_append, Argument.partsAll, ih, List.append_assoc]

mutual

theorem Node.parts_map (f : π → ρ) : ∀ n : Node π, (n.map f).parts = n.parts.map (Part.map f)
  | .text _ => rfl
  | .mention _ _ => rfl
  | .call name arguments span => by
    simp only [Node.map, Node.parts, Argument.partsAll_map f arguments, List.map_append,
      List.map_cons, List.map_nil, Part.map]

theorem Argument.parts_map (f : π → ρ) :
    ∀ a : Argument π, (a.map f).parts = a.parts.map (Part.map f)
  | ⟨nodes, source, span⟩ => by
    simp only [Argument.map, Argument.parts, Node.partsAll_map f nodes, List.map_append,
      List.map_cons, List.map_nil, Part.map]

theorem Argument.partsAll_map (f : π → ρ) : ∀ as : List (Argument π),
    Argument.partsAll (Argument.mapAll f as) = (Argument.partsAll as).map (Part.map f)
  | [] => rfl
  | a :: as => by
    simp only [Argument.mapAll, Argument.partsAll, Argument.parts_map f a,
      Argument.partsAll_map f as, List.map_append]

/-- The parts of a tree with its positions mapped. -/
theorem Node.partsAll_map (f : π → ρ) : ∀ ns : List (Node π),
    Node.partsAll (Node.mapAll f ns) = (Node.partsAll ns).map (Part.map f)
  | [] => rfl
  | n :: ns => by
    simp only [Node.mapAll, Node.partsAll, Node.parts_map f n, Node.partsAll_map f ns,
      List.map_append]

end

/-- What is picked out of arguments is what is picked out of their nodes, unless the arguments are
picked themselves. -/
theorem filterMap_partsAll {β : Type} {f : Part π → Option β} (hf : ∀ a, f (.argument a) = none)
    (as : List (Argument π)) :
    (Argument.partsAll as).filterMap f =
      as.flatMap fun a => (Node.partsAll a.nodes).filterMap f := by
  induction as with
  | nil => rfl
  | cons a as ih =>
    rw [Argument.partsAll, Argument.parts_eq, List.filterMap_append, List.filterMap_append, ih]
    simp [hf]

/-! ## Names -/

/-- The name of a part that is a call, with brackets or without. -/
def Part.name? : Part π → Option String
  | mention name _ => some name
  | argument _ => none
  | call name _ _ => some name

/-- The names of all calls in nodes, at any depth. -/
def Node.names (ns : List (Node π)) : List String :=
  (Node.partsAll ns).filterMap Part.name?

theorem Node.names_cons (n : Node π) (ns : List (Node π)) :
    Node.names (n :: ns) = n.parts.filterMap Part.name? ++ Node.names ns :=
  List.filterMap_append

theorem names_call (name : String) (as : List (Argument π)) (span : Span π) :
    (Node.call name as span).parts.filterMap Part.name? =
      (as.flatMap fun a => Node.names a.nodes) ++ [name] := by
  rw [Node.parts, List.filterMap_append, filterMap_partsAll fun _ => rfl]
  rfl

/-! ## Regions -/

namespace Region

/-- The finished parts of a region. -/
def parts (r : Region) : List (Part Nat) :=
  Node.partsAll r.nodes.reverse

@[simp] theorem source_flush (r : Region) : r.flush.source = r.source := by
  unfold flush
  split <;> rfl

@[simp] theorem parts_flush (r : Region) : r.flush.parts = r.parts := by
  unfold flush
  split
  · rfl
  · simp [parts, Node.partsAll_append, Node.partsAll, Node.parts]

@[simp] theorem source_add (r : Region) (literal source : String) :
    (r.add literal source).source = r.source ++ source := rfl

@[simp] theorem parts_add (r : Region) (literal source : String) :
    (r.add literal source).parts = r.parts := rfl

@[simp] theorem source_push (r : Region) (n : Node Nat) (source : String) :
    (r.push n source).source = r.source ++ source := by
  simp [push]

@[simp] theorem parts_push (r : Region) (n : Node Nat) (source : String) :
    (r.push n source).parts = r.parts ++ n.parts := by
  have h : (r.push n source).parts = r.flush.parts ++ n.parts := by
    simp [push, parts, Node.partsAll_append, Node.partsAll]
  rw [h, parts_flush]

theorem partsAll_finish (r : Region) : Node.partsAll r.finish = r.parts :=
  r.parts_flush

end Region

/-! ## The text read so far -/

/-- Finished arguments, last first, each with the separator behind it. -/
def separated : List (Argument Nat) → String
  | [] => ""
  | a :: as => separated as ++ a.source ++ ";"

theorem intercalate_arguments (a : Argument Nat) (as : List (Argument Nat)) :
    ";".intercalate ((a :: as).reverse.map (·.source)) = separated as ++ a.source := by
  induction as generalizing a with
  | nil => simp [separated]
  | cons b as ih =>
    rw [List.reverse_cons, List.map_append,
      String.intercalate_append_of_ne_nil (by simp) (by simp), ih]
    simp [separated, String.append_assoc]

/-- The text from the beginning of the region that the call stands in to the argument being
read. -/
def Frame.written (f : Frame) : String :=
  f.outer.source ++ f.name ++ "[" ++ separated f.arguments

/-- The finished parts of the region that the call stands in, and of the call. -/
def Frame.parts (f : Frame) : List (Part Nat) :=
  f.outer.parts ++ Argument.partsAll f.arguments.reverse

/-- Pending characters as they stand in the script. -/
def Pending.text : Pending → String
  | .nothing => ""
  | .backslash => "\\"
  | .name _ letters => "$" ++ letters

namespace State

/-- The text read before the innermost region began. -/
def openText : List Frame → String
  | [] => ""
  | f :: fs => openText fs ++ f.written

/-- The parts finished before the innermost region began. -/
def openParts : List Frame → List (Part Nat)
  | [] => []
  | f :: fs => openParts fs ++ f.parts

/-- The text read so far. -/
def written (s : State) : String :=
  openText s.frames ++ s.region.source ++ s.pending.text

/-- The parts finished so far, in the order in which they end. -/
def parts (s : State) : List (Part Nat) :=
  openParts s.frames ++ s.region.parts

theorem source_settle (s : State) : s.settle.region.source = s.region.source ++ s.pending.text := by
  cases hp : s.pending with
  | nothing => simp [settle, hp, Pending.text]
  | backslash => simp [settle, hp, Pending.text]
  | name start letters =>
    by_cases hl : letters.isEmpty <;> simp [settle, hp, hl, Pending.text]

theorem written_settle (s : State) : s.settle.written = s.written := by
  simp [written, source_settle, Pending.text, String.append_assoc]

/-- The arguments of a call that ends here. -/
def closing (s : State) (f : Frame) : List (Argument Nat) :=
  if f.arguments.isEmpty && s.region.source.isEmpty then []
  else (s.argument f :: f.arguments).reverse

theorem closeCall_eq (s : State) (f : Frame) (fs : List Frame) :
    s.closeCall f fs =
      { region := f.outer.push (.call f.name (s.closing f) ⟨f.start, s.offset + 1⟩)
          (f.name ++ "[" ++ ";".intercalate ((s.closing f).map (·.source)) ++ "]")
        frames := fs
        offset := s.offset + 1 } := rfl

theorem intercalate_closing (s : State) (f : Frame) :
    ";".intercalate ((s.closing f).map (·.source)) = separated f.arguments ++ s.region.source := by
  unfold closing
  split
  · rename_i h
    simp only [Bool.and_eq_true, List.isEmpty_iff, String.isEmpty_iff] at h
    simp [h, separated]
  · rw [intercalate_arguments]
    rfl

theorem written_plain {s : State} (h : s.pending = .nothing) (c : Char) :
    (s.plain c).written = s.written ++ String.singleton c := by
  have hp := s.plain_spec c
  generalize s.plain c = s' at hp
  cases hp with
  | backslash hc | dollar hc =>
    subst hc
    simp only [hold, written, h, Pending.text, String.append_empty]
    rfl
  | outside | inside =>
    simp [literal, written, h, Pending.text, String.append_assoc, -String.append_singleton]
  | openBare hc f fs hf | closeBare hc f fs hf =>
    simp [bracket, literal, written, hf, h, openText, Frame.written, Pending.text,
      String.append_assoc, -String.append_singleton]
  | separate hc f fs hf =>
    subst hc
    simp only [separate, argument, written, hf, h, openText, Frame.written, separated,
      Pending.text, String.append_assoc, String.append_empty]
    rfl
  | close hc f fs hf =>
    subst hc
    rw [closeCall_eq, intercalate_closing]
    simp only [written, hf, h, openText, Frame.written, Pending.text, Region.source_push,
      String.append_assoc, String.append_empty]
    rfl

/-- The text read so far grows by the character read. -/
theorem written_step {s s' : State} {c : Char} (h : s.step c = .ok s') :
    s'.written = s.written ++ String.singleton c := by
  cases step_spec h with
  | plain => rw [written_plain s.settle_pending, written_settle]
  | unescape hp hc =>
    simp [unescape, written, hp, Pending.text, String.append_assoc, -String.append_singleton]
  | letter start letters hp hc =>
    simp [spell, written, hp, Pending.text, String.append_assoc, String.push_eq_append,
      -String.append_singleton]
  | call start letters hp hl hc hd =>
    subst hc
    simp only [openCall, written, hp, openText, Frame.written, separated, Pending.text,
      String.append_assoc, String.append_empty]
    rfl

/-- The text read so far grows by the characters read. -/
theorem written_run {s s' : State} {cs : List Char} (h : s.run cs = .ok s') :
    s'.written = s.written ++ String.ofList cs := by
  refine run_invariant (P := fun cs t => t.written = s.written ++ String.ofList cs)
    (fun cs t c t' ht hc => ?_) [] ?_ h
  · rw [written_step hc, ht, String.ofList_append, String.append_assoc, String.singleton_eq_ofList]
  · simp

/-- A run that comes back to the open calls it began with has added exactly its characters to the
source of the region. -/
theorem source_of_run {s s' : State} {cs : List Char} (h : s.run cs = .ok s')
    (hf : s'.frames = s.frames) :
    s'.settle.region.source = s.settle.region.source ++ String.ofList cs := by
  have hw := written_run h
  simp only [written, hf, String.append_assoc] at hw
  rw [source_settle, source_settle, String.append_assoc]
  exact (String.append_right_inj _).1 hw

/-! ## The parts finished so far -/

/-- The part that a pending name becomes when it is settled. -/
def settled (s : State) : List (Part Nat) :=
  match s.pending with
  | .name start letters =>
    if letters.isEmpty then [] else [.mention ("$" ++ letters) ⟨start, s.offset⟩]
  | _ => []

theorem mem_settled {s : State} {p : Part Nat} (h : p ∈ s.settled) :
    ∃ start letters, s.pending = .name start letters ∧
      p = .mention ("$" ++ letters) ⟨start, s.offset⟩ := by
  unfold settled at h
  split at h
  · rename_i start letters hp
    split at h
    · cases h
    · exact ⟨start, letters, hp, List.mem_singleton.1 h⟩
  · cases h

theorem parts_settle (s : State) : s.settle.parts = s.parts ++ s.settled := by
  cases hp : s.pending with
  | nothing | backslash => simp [parts, settle, settled, hp]
  | name start letters =>
    by_cases hl : letters.isEmpty <;> simp [parts, settle, settled, hp, hl, Node.parts]

/-- A region without text has no parts. Without this a call whose brackets hold nothing could lose
the parts between them. -/
def Founded (s : State) : Prop :=
  s.region.source = "" → s.region.parts = []

theorem founded_settle {s : State} (h : s.Founded) : s.settle.Founded := by
  intro hs
  cases hp : s.pending with
  | nothing =>
    rw [settle_of_nothing hp] at hs ⊢
    exact h hs
  | backslash | name =>
    rw [source_settle, hp] at hs
    simp [Pending.text] at hs

theorem founded_plain {s : State} (h : s.Founded) (c : Char) : (s.plain c).Founded := by
  have hp := s.plain_spec c
  generalize s.plain c = s' at hp
  cases hp with
  | backslash | dollar => exact h
  | outside | inside | openBare | closeBare =>
    intro hs
    simp [bracket, literal] at hs
  | separate => exact fun _ => rfl
  | close hc f fs =>
    intro hs
    rw [closeCall_eq] at hs
    simp at hs

theorem founded_step {s s' : State} {c : Char} (h : s.Founded) (hs : s.step c = .ok s') :
    s'.Founded := by
  cases step_spec hs with
  | plain => exact founded_plain (founded_settle h) c
  | unescape =>
    intro hs
    simp [unescape] at hs
  | letter => exact h
  | call => exact fun _ => rfl

/-- What a separator or a closing bracket finishes. -/
inductive Finishes (s : State) : List (Part Nat) → Prop
  | nothing : Finishes s []
  | argument (f : Frame) (fs : List Frame) (hf : s.frames = f :: fs) (hb : f.bare = 0) :
      Finishes s [.argument (s.argument f)]
  | emptyCall (f : Frame) (fs : List Frame) (hf : s.frames = f :: fs) :
      Finishes s [.call f.name [] ⟨f.start, s.offset + 1⟩]
  | call (f : Frame) (fs : List Frame) (hf : s.frames = f :: fs) (hb : f.bare = 0)
      (arguments : List (Argument Nat)) :
      Finishes s [.argument (s.argument f), .call f.name arguments ⟨f.start, s.offset + 1⟩]

theorem parts_separate {s : State} {f : Frame} {fs : List Frame} (hf : s.frames = f :: fs) :
    (s.separate f fs).parts = s.parts ++ [.argument (s.argument f)] := by
  simp [separate, parts, hf, openParts, Frame.parts, Argument.partsAll_append, Argument.partsAll,
    Argument.parts_eq, argument, Region.partsAll_finish]
  rfl

theorem parts_closeCall {s : State} (h : s.Founded) {f : Frame} {fs : List Frame}
    (hf : s.frames = f :: fs) :
    (s.closeCall f fs).parts = s.parts ++
      (if f.arguments.isEmpty && s.region.source.isEmpty then [] else [.argument (s.argument f)]) ++
      [.call f.name (s.closing f) ⟨f.start, s.offset + 1⟩] := by
  rw [closeCall_eq]
  by_cases he : (f.arguments.isEmpty && s.region.source.isEmpty) = true
  · simp only [closing, he, if_true]
    simp only [Bool.and_eq_true, List.isEmpty_iff, String.isEmpty_iff] at he
    simp [parts, hf, openParts, Frame.parts, Node.parts, Argument.partsAll, he.1, h he.2]
  · simp only [closing, he]
    simp [parts, hf, openParts, Frame.parts, Node.parts, Argument.partsAll_append,
      Argument.partsAll, Argument.parts_eq, argument, Region.partsAll_finish]

theorem parts_plain {s : State} (h : s.Founded) (c : Char) :
    ∃ new, Finishes s new ∧ (s.plain c).parts = s.parts ++ new := by
  have hp := s.plain_spec c
  generalize s.plain c = s' at hp
  cases hp with
  | backslash | dollar | outside | inside => exact ⟨[], .nothing, (List.append_nil _).symm⟩
  | openBare hc f fs hf | closeBare hc f fs hf =>
    refine ⟨[], .nothing, ?_⟩
    simp [bracket, literal, parts, hf, openParts, Frame.parts]
  | separate hc f fs hf hb => exact ⟨_, .argument f fs hf hb, parts_separate hf⟩
  | close hc f fs hf hb =>
    have hparts := parts_closeCall h hf
    by_cases he : (f.arguments.isEmpty && s.region.source.isEmpty) = true
    · refine ⟨_, .emptyCall f fs hf, ?_⟩
      simpa [he, closing] using hparts
    · refine ⟨_, .call f fs hf hb (s.closing f), ?_⟩
      simpa [he] using hparts

theorem parts_openCall (s : State) (name : String) (start : Nat) :
    (s.openCall name start).parts = s.parts := by
  simp [openCall, parts, openParts, Frame.parts, Region.parts, Argument.partsAll, Node.partsAll]

/-- The parts finished so far only grow: by a pending name, and by what a separator or a closing
bracket finishes. -/
theorem parts_step {s s' : State} {c : Char} (h : s.Founded) (hs : s.step c = .ok s') :
    ∃ new, (new = [] ∨ ∃ ended, s.settle.Finishes ended ∧ new = s.settled ++ ended) ∧
      s'.parts = s.parts ++ new := by
  cases step_spec hs with
  | plain =>
    obtain ⟨ended, he, hp⟩ := parts_plain (founded_settle h) c
    exact ⟨_, .inr ⟨ended, he, rfl⟩, by rw [hp, parts_settle, List.append_assoc]⟩
  | unescape | letter => exact ⟨[], .inl rfl, (List.append_nil _).symm⟩
  | call => exact ⟨[], .inl rfl, by rw [parts_openCall, List.append_nil]⟩

/-- The parts of the finished tree are those of the last state. -/
theorem parts_finish {s : State} {nodes : List (Node Nat)} (h : s.finish = .ok nodes) :
    Node.partsAll nodes = s.settle.parts := by
  unfold finish at h
  split at h
  · rename_i hf
    cases h
    rw [Region.partsAll_finish]
    simp [parts, hf, openParts]
  · cases h

end State

end CanvasScript.Script
