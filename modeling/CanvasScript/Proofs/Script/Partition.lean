import CanvasScript.Proofs.Script.Layout
import Mathlib.Algebra.Ring.Nat

/-!
# The tree of a script partitions its text

The reader keeps offsets, spans, sources and literal text apart from each other. Here they are shown
to stay together, whatever is read.

* `Region.Lies`: what has been read of a region lies in its source, and the literal text behind the
  last call is the source behind it with its escapes removed.
* `Frame.Lies`, `framesLie`: an open call stands behind the source of the region around it, its
  finished arguments in a row behind its bracket.
* `State.Lies`: all of it for the reader. It is kept by every step (`lies_step`), hence by every run
  (`lies_run`).

Results:
* `lies_readOffsets`: the tree that is read lies in the script, at every depth.
* `read_partitions`: in terms of the script alone, for the tree with locations.
-/

namespace CanvasScript.Script

variable {t t' : String} {o : Nat}

/-! ## Regions -/

namespace Region

variable {r : Region}

/-- The literal text is the text with its escapes removed, whatever follows it. -/
def Unescapes (t literal : String) : Prop :=
  ∀ rest, unescape (t.toList ++ rest) = literal.toList ++ unescape rest

/-- What has been read of a region that begins at `o`. -/
def Lies (o : Nat) (r : Region) : Prop :=
  ∃ pieces t, r.nodes.reverse = weave pieces ∧ r.source = spelled pieces ++ t ∧
    Unescapes t r.literal ∧ Seated id o pieces

theorem Unescapes.append {literal literal' : String} (h : Unescapes t literal)
    (h' : Unescapes t' literal') : Unescapes (t ++ t') (literal ++ literal') := by
  intro rest
  rw [String.toList_append, List.append_assoc, h, h', String.toList_append, List.append_assoc]

theorem Unescapes.eq {literal : String} (h : Unescapes t literal) :
    unescape t.toList = literal.toList := by
  simpa [unescape] using h []

/-- A character that is no backslash stands for itself. -/
theorem unescapes_char {c : Char} (h : c ≠ '\\') : Unescapes c.toString c.toString := by
  intro rest
  simp [Char.toString, unescape_cons h]

theorem unescapes_special {c : Char} (h : isSpecial c = true) :
    Unescapes ("\\" ++ c.toString) c.toString := by
  intro rest
  simp [Char.toString, unescape_special h]

/-- A backslash before any other character stands for itself. -/
theorem unescapes_not_special {c : Char} (h : isSpecial c = false) :
    Unescapes ("\\" ++ c.toString) ("\\" ++ c.toString) := by
  intro rest
  simp [Char.toString, unescape_not_special h]

theorem lies_empty (o : Nat) : Lies o {} :=
  ⟨[], "", rfl, rfl, fun _ => rfl, trivial⟩

theorem Lies.add (h : r.Lies o) {literal source : String} (hu : Unescapes source literal) :
    (r.add literal source).Lies o := by
  obtain ⟨pieces, t, hnodes, hsource, hliteral, hseated⟩ := h
  refine ⟨pieces, t ++ source, hnodes, ?_, hliteral.append hu, hseated⟩
  rw [source_add, hsource, String.append_assoc]

theorem finish_of_unescape (h : unescape t.toList = r.literal.toList) :
    r.finish = r.nodes.reverse ++ gap t := by
  have hempty : r.literal.isEmpty = true ↔ t.isEmpty = true := by
    rw [String.isEmpty_iff, String.isEmpty_iff, ← String.toList_eq_nil_iff,
      ← String.toList_eq_nil_iff, ← h, unescape_eq_nil_iff]
  unfold finish flush gap
  by_cases ht : t.isEmpty = true
  · simp [ht, hempty.2 ht]
  · rw [if_neg ht, if_neg (mt hempty.1 ht), h, String.ofList_toList]
    simp

/-- A region that ends with some more text. -/
theorem Lies.finish_add (h : r.Lies o) (literal source : String)
    (hu : unescape source.toList = literal.toList) :
    Node.Lie id o (r.add literal source).finish (r.source ++ source) := by
  obtain ⟨pieces, t, hnodes, hsource, hliteral, hseated⟩ := h
  have hfinish : unescape (t ++ source).toList = (r.add literal source).literal.toList := by
    rw [String.toList_append, hliteral, hu, Region.add, String.toList_append]
  refine ⟨pieces, t ++ source, ?_, ?_, hseated⟩
  · rw [finish_of_unescape hfinish, ← hnodes]
    rfl
  · rw [hsource, String.append_assoc]

theorem Lies.finish (h : r.Lies o) : Node.Lie id o r.finish r.source := by
  have hadd : r.add "" "" = r := by simp [Region.add]
  simpa [hadd] using h.finish_add "" "" rfl

/-- A call that is put where the text of the region ends. -/
theorem Lies.push (h : r.Lies o) {n : Node Nat} {span : Span Nat} (hspan : n.span? = some span)
    (hne : n.spelling ≠ "") (hstart : span.start = o + r.source.utf8ByteSize)
    (hstop : span.stop = o + r.source.utf8ByteSize + n.spelling.utf8ByteSize) :
    (r.push n n.spelling).Lies o := by
  obtain ⟨pieces, t, hnodes, hsource, hliteral, hseated⟩ := h
  have hpush : (r.push n n.spelling).nodes.reverse = r.finish ++ [n] := by
    simp [Region.push, Region.finish]
  have hliteral' : (r.push n n.spelling).literal = "" := by
    unfold Region.push flush
    split
    · rename_i hempty
      rwa [String.isEmpty_iff] at hempty
    · rfl
  rw [hsource, String.utf8ByteSize_append, ← Nat.add_assoc] at hstart hstop
  refine ⟨pieces ++ [⟨t, n⟩], "", ?_, ?_, ?_, ?_⟩
  · rw [hpush, finish_of_unescape hliteral.eq, hnodes, weave_append, List.append_assoc]
    simp [weave, Piece.nodes]
  · rw [source_push, hsource, spelled_append]
    simp [spelled, Piece.spelling, String.append_assoc]
  · rw [hliteral']
    exact fun _ => rfl
  · refine seated_append.2 ⟨hseated, ⟨span, hspan, hne, hstart, ?_⟩, trivial⟩
    rw [Piece.spelling, String.utf8ByteSize_append, ← Nat.add_assoc]
    exact hstop

end Region

/-! ## Arguments in a row -/

theorem size_separated (as : List (Argument Nat)) :
    (separated as).utf8ByteSize = (as.map fun a => a.source.utf8ByteSize + 1).sum := by
  induction as with
  | nil => rfl
  | cons a as ih =>
    rw [separated, String.utf8ByteSize_append, String.utf8ByteSize_append, ih, List.map_cons,
      List.sum_cons]
    have hsize : ";".utf8ByteSize = 1 := rfl
    omega

theorem Argument.row_append {as bs : List (Argument Nat)} :
    Argument.Row id o (as ++ bs) ↔
      Argument.Row id o as ∧
        Argument.Row id (o + (as.map fun a => a.source.utf8ByteSize + 1).sum) bs := by
  induction as generalizing o with
  | nil => simp [Argument.Row]
  | cons a as ih =>
    simp only [List.cons_append, Argument.Row, ih, List.map_cons, List.sum_cons, and_assoc,
      Nat.add_assoc]

/-- One more argument behind the others. -/
theorem Argument.row_reverse_cons {a : Argument Nat} {as : List (Argument Nat)}
    (h : Argument.Row id o as.reverse)
    (hstart : a.span.start = o + (separated as).utf8ByteSize)
    (hstop : a.span.stop = a.span.start + a.source.utf8ByteSize) :
    Argument.Row id o (a :: as).reverse := by
  rw [List.reverse_cons, row_append]
  refine ⟨h, ?_⟩
  rw [List.map_reverse, List.sum_reverse, ← size_separated, ← hstart]
  exact ⟨rfl, hstop, trivial⟩

/-! ## The reader -/

/-- An open call stands in the region around it, which begins at `o`, where the text of that region
ends. -/
structure Frame.Lies (o : Nat) (f : Frame) : Prop where
  outer : f.outer.Lies o
  start : f.start = o + f.outer.source.utf8ByteSize
  row : Argument.Row id (f.start + f.name.utf8ByteSize + 1) f.arguments.reverse
  opened : f.opened = f.start + f.name.utf8ByteSize + 1 + (separated f.arguments).utf8ByteSize

/-- What holds of an open call does not depend on its bare brackets. -/
theorem Frame.Lies.bare {o : Nat} {f : Frame} (h : f.Lies o) (bare : Nat) :
    ({ f with bare } : Frame).Lies o :=
  ⟨h.outer, h.start, h.row, h.opened⟩

/-- Where the innermost region begins. -/
def base : List Frame → Nat
  | [] => 0
  | f :: _ => f.opened

theorem base_cons (f : Frame) (fs : List Frame) : base (f :: fs) = f.opened := rfl

/-- Open calls, each standing in the region that the next one has opened. -/
def framesLie : List Frame → Prop
  | [] => True
  | f :: fs => f.Lies (base fs) ∧ framesLie fs

namespace State

/-- Everything that the reader holds stands where it has been read. -/
structure Lies (s : State) : Prop where
  frames : framesLie s.frames
  region : s.region.Lies (base s.frames)
  pending : ∀ start letters, s.pending = .name start letters →
    start = base s.frames + s.region.source.utf8ByteSize
  offset : s.offset =
    base s.frames + s.region.source.utf8ByteSize + s.pending.text.utf8ByteSize
  parts : ∀ p ∈ s.parts, p.Lies id

theorem lies_initial : Lies {} where
  frames := trivial
  region := Region.lies_empty 0
  pending _ _ h := by cases h
  offset := rfl
  parts _ h := by cases h

variable {s s' : State}

theorem Lies.offset_of_nothing (h : s.Lies) (hp : s.pending = .nothing) :
    s.offset = base s.frames + s.region.source.utf8ByteSize := by
  simpa [hp, Pending.text] using h.offset

/-- Literal text is added where the region ends. -/
theorem Lies.add (h : s.Lies) (literal source : String) (hp : s'.pending = .nothing)
    (hf : s'.frames = s.frames) (hr : s'.region = s.region.add literal source)
    (hu : Region.Unescapes source literal)
    (ho : s'.offset = base s.frames + s.region.source.utf8ByteSize + source.utf8ByteSize) :
    s'.Lies where
  frames := hf ▸ h.frames
  region := by
    rw [hf, hr]
    exact h.region.add hu
  pending start letters hn := by
    rw [hp] at hn
    cases hn
  offset := by
    rw [ho, hf, hr, hp]
    simp [Pending.text, Nat.add_assoc]
  parts p hm := by
    refine h.parts p ?_
    simpa [State.parts, hf, hr] using hm

/-- A call is put where the text of a region ends, and is read to its end. -/
theorem lies_push {fs : List Frame} {r : Region} {n : Node Nat} {span : Span Nat}
    (hf : framesLie fs) (hr : r.Lies (base fs)) (hspan : n.span? = some span)
    (hne : n.spelling ≠ "") (hstart : span.start = base fs + r.source.utf8ByteSize)
    (hstop : span.stop = base fs + r.source.utf8ByteSize + n.spelling.utf8ByteSize)
    (hp : ∀ p ∈ parts { region := r.push n n.spelling, frames := fs, offset := span.stop },
      p.Lies id) :
    Lies { region := r.push n n.spelling, frames := fs, offset := span.stop } where
  frames := hf
  region := hr.push hspan hne hstart hstop
  pending _ _ hn := by cases hn
  offset := by
    rw [hstop]
    simp [Pending.text, Nat.add_assoc]
  parts := hp

theorem Lies.parts_settle (h : s.Lies) : ∀ p ∈ s.settle.parts, p.Lies id := by
  intro p hp
  rw [State.parts_settle, List.mem_append] at hp
  rcases hp with hp | hp
  · exact h.parts p hp
  · obtain ⟨start, letters, -, rfl⟩ := mem_settled hp
    trivial

theorem lies_settle (h : s.Lies) (hp : s.pending ≠ .backslash) : s.settle.Lies := by
  cases hs : s.pending with
  | nothing => rwa [settle_of_nothing hs]
  | backslash => exact absurd hs hp
  | name start letters =>
    have hstart := h.pending start letters hs
    have hoffset := h.offset
    rw [hs] at hoffset
    by_cases hl : letters.isEmpty = true
    · refine h.add ("$" ++ letters) ("$" ++ letters) s.settle_pending s.settle_frames
        (by simp [settle, hs, hl]) ?_ (by rw [settle_offset, hoffset]; rfl)
      rw [String.isEmpty_iff.1 hl]
      exact Region.unescapes_char (c := '$') (by decide)
    · have hsettle : s.settle =
          { region := s.region.push (.mention ("$" ++ letters) ⟨start, s.offset⟩) ("$" ++ letters)
            frames := s.frames
            offset := s.offset } := by
        simp [settle, hs, hl]
      have hparts := h.parts_settle
      rw [hsettle] at hparts ⊢
      exact lies_push (n := .mention ("$" ++ letters) ⟨start, s.offset⟩) h.frames h.region rfl
        (by simp [Node.spelling]) hstart hoffset hparts

/-! ### A plain character -/

theorem lies_literal (h : s.Lies) (hp : s.pending = .nothing) {c : Char} (hc : c ≠ '\\') :
    (s.literal c).Lies := by
  refine h.add c.toString c.toString hp rfl rfl (Region.unescapes_char hc) ?_
  rw [← h.offset_of_nothing hp]
  simp [literal, Char.toString]

theorem lies_hold (h : s.Lies) (hp : s.pending = .nothing) {p : Pending}
    (hsize : p.text.utf8ByteSize = 1)
    (hname : ∀ start letters, p = .name start letters → start = s.offset) : (s.hold p).Lies where
  frames := h.frames
  region := h.region
  pending start letters hn := by
    rw [hname start letters hn]
    exact h.offset_of_nothing hp
  offset := by
    have ho := h.offset_of_nothing hp
    simp only [hold, hsize]
    omega
  parts := h.parts

/-- The argument that ends here lies in its source, behind those before it. -/
theorem Lies.argument (h : s.Lies) (hp : s.pending = .nothing) {f : Frame} {fs : List Frame}
    (hf : s.frames = f :: fs) :
    (Part.argument (s.argument f)).Lies id ∧
      Argument.Row id (f.start + f.name.utf8ByteSize + 1)
        (s.argument f :: f.arguments).reverse := by
  have hregion := h.region
  have hframe := h.frames
  have ho := h.offset_of_nothing hp
  rw [hf] at hregion hframe ho
  refine ⟨hregion.finish, Argument.row_reverse_cons hframe.1.row hframe.1.opened ho⟩

theorem lies_separate (h : s.Lies) (hp : s.pending = .nothing) {f : Frame} {fs : List Frame}
    (hf : s.frames = f :: fs) : (s.separate f fs).Lies := by
  obtain ⟨hargument, hrow⟩ := h.argument hp hf
  have hframe := h.frames
  have ho := h.offset_of_nothing hp
  rw [hf] at hframe ho
  refine ⟨⟨⟨hframe.1.outer, hframe.1.start, hrow, ?_⟩, hframe.2⟩, Region.lies_empty _, nofun,
    rfl, ?_⟩
  · have hsize : ";".utf8ByteSize = 1 := rfl
    have hopened := hframe.1.opened
    simp only [separated, String.utf8ByteSize_append, argument, base_cons] at ho ⊢
    omega
  · intro p hm
    rw [parts_separate hf, List.mem_append, List.mem_singleton] at hm
    rcases hm with hm | rfl
    · exact h.parts p hm
    · exact hargument

theorem lies_closeCall (h : s.Lies) (hs : s.Founded) (hp : s.pending = .nothing) {f : Frame}
    {fs : List Frame} (hf : s.frames = f :: fs) : (s.closeCall f fs).Lies := by
  obtain ⟨hargument, hrow⟩ := h.argument hp hf
  have hframe := h.frames
  have ho := h.offset_of_nothing hp
  rw [hf] at hframe ho
  have hparts : ∀ p ∈ (s.closeCall f fs).parts, p.Lies id := by
    intro p hm
    rw [parts_closeCall hs hf, List.mem_append, List.mem_append, List.mem_singleton] at hm
    rcases hm with (hm | hm) | rfl
    · exact h.parts p hm
    · split at hm
      · cases hm
      · rw [List.mem_singleton] at hm
        subst hm
        exact hargument
    · show Argument.Row id (f.start + f.name.utf8ByteSize + 1) (s.closing f)
      unfold closing
      split
      · trivial
      · exact hrow
  rw [closeCall_eq] at hparts ⊢
  refine lies_push (n := .call f.name (s.closing f) ⟨f.start, s.offset + 1⟩) hframe.2 hframe.1.outer
    rfl ?_ hframe.1.start ?_ hparts
  · simp [Node.spelling]
  · have hopened := hframe.1.opened
    have hstart := hframe.1.start
    have hopen : "[".utf8ByteSize = 1 := rfl
    have hclose : "]".utf8ByteSize = 1 := rfl
    simp only [Node.spelling, intercalate_closing, String.utf8ByteSize_append, base_cons] at ho ⊢
    omega

theorem Lies.bare (h : s.Lies) {f : Frame} {fs : List Frame} (hf : s.frames = f :: fs)
    (bare : Nat) : Lies { s with frames := { f with bare } :: fs } := by
  have hframe := h.frames
  have hregion := h.region
  have hpending := h.pending
  have ho := h.offset
  have hparts := h.parts
  rw [State.parts, hf] at hparts
  rw [hf] at hframe hregion hpending ho
  exact ⟨⟨hframe.1.bare bare, hframe.2⟩, hregion, hpending, ho, hparts⟩

theorem lies_plain (h : s.Lies) (hs : s.Founded) (hp : s.pending = .nothing) (c : Char) :
    (s.plain c).Lies := by
  have hplain := s.plain_spec c
  generalize s.plain c = s' at hplain
  cases hplain with
  | backslash => exact lies_hold h hp rfl nofun
  | dollar =>
    refine lies_hold h hp rfl fun start letters hn => ?_
    cases hn
    rfl
  | outside hc => exact lies_literal h hp hc.1
  | inside hc => exact lies_literal h hp hc.1
  | openBare hc f fs hf => exact (lies_literal h hp (by simp [hc])).bare hf _
  | closeBare hc f fs hf => exact (lies_literal h hp (by simp [hc])).bare hf _
  | separate hc f fs hf => exact lies_separate h hp hf
  | close hc f fs hf => exact lies_closeCall h hs hp hf

/-! ### Any character -/

/-- A backslash that turns out to stand for itself is read together with the character behind it. -/
theorem lies_after_backslash (h : s.Lies) (hp : s.pending = .backslash) {c : Char}
    (hc : isSpecial c = false) : (s.settle.plain c).Lies := by
  rw [plain_of_not_special hc]
  refine h.add ("\\" ++ c.toString) ("\\" ++ c.toString) ?_ ?_ ?_
    (Region.unescapes_not_special hc) ?_
  · simp [literal]
  · simp [literal]
  · simp only [literal, settle, hp, Region.add, String.append_assoc]
  · have ho := h.offset
    rw [hp] at ho
    simp only [literal, settle_offset, ho, String.utf8ByteSize_append, Pending.text,
      Char.toString, String.utf8ByteSize_singleton]
    omega

theorem lies_step (h : s.Lies) (hs : s.Founded) {c : Char} (hstep : s.step c = .ok s') :
    s'.Lies := by
  cases step_spec hstep with
  | plain hj =>
    by_cases hp : s.pending = .backslash
    · rw [hp] at hj
      exact lies_after_backslash h hp hj
    · exact lies_plain (lies_settle h hp) (founded_settle hs) s.settle_pending c
  | unescape hp hc =>
    refine h.add c.toString ("\\" ++ c.toString) rfl rfl rfl (Region.unescapes_special hc) ?_
    have ho := h.offset
    rw [hp] at ho
    simp only [unescape, ho, String.utf8ByteSize_append, Pending.text, Char.toString,
      String.utf8ByteSize_singleton, utf8Size_of_isSpecial hc]
    rfl
  | letter start letters hp hc =>
    have hletter : continuesName c = true := by
      split at hc
      · exact continuesName_of_startsName hc
      · exact hc
    refine ⟨h.frames, h.region, fun start' letters' hn => ?_, ?_, h.parts⟩
    · cases hn
      exact h.pending start letters hp
    · have ho := h.offset
      rw [hp] at ho
      simp only [spell, Pending.text, String.utf8ByteSize_append, String.utf8ByteSize_push,
        utf8Size_of_continuesName hletter] at ho ⊢
      omega
  | call start letters hp hl hc hd =>
    have hstart := h.pending start letters hp
    have ho := h.offset
    rw [hp] at ho
    refine ⟨⟨⟨h.region, hstart, trivial, ?_⟩, h.frames⟩, Region.lies_empty _, ?_, rfl, ?_⟩
    · simp only [separated, String.utf8ByteSize_empty, ho, hstart, Pending.text]
    · intro start letters hn
      cases hn
    · rw [parts_openCall]
      exact h.parts

/-- Every state that is reached from the beginning. -/
theorem lies_run {cs : List Char} (h : ({} : State).run cs = .ok s) : s.Lies := by
  have hrun := run_invariant (P := fun _ s => s.Founded ∧ s.Lies)
    (fun _ _ _ _ hs hc => ⟨founded_step hs.1 hc, lies_step hs.2 hs.1 hc⟩) []
    ⟨fun _ => rfl, lies_initial⟩ h
  exact hrun.2

/-- At the end of a script a backslash that is left stands for itself. -/
theorem Lies.finish (h : s.Lies) :
    Node.Lie id (base s.frames) s.settle.region.finish s.settle.region.source := by
  by_cases hp : s.pending = .backslash
  · have hsettle : s.settle.region = s.region.add "\\" "\\" := by simp [settle, hp]
    rw [hsettle]
    exact h.region.finish_add "\\" "\\" rfl
  · have hsettled := lies_settle h hp
    rw [← s.settle_frames]
    exact hsettled.region.finish

end State

/-! ## The finished tree -/

/-- The tree that is read lies in the script, and so do its parts in each other. -/
theorem lies_readOffsets {source : String} {nodes : List (Node Nat)}
    (h : readOffsets source = .ok nodes) :
    Node.Lie id 0 nodes source ∧ ∀ p ∈ Node.partsAll nodes, p.Lies id := by
  obtain ⟨s, hr, hf⟩ := readOffsets_ok h
  have hlies := State.lies_run hr
  have hparts := hlies.parts_settle
  rw [← State.parts_finish hf] at hparts
  refine ⟨?_, hparts⟩
  unfold State.finish at hf
  split at hf
  · rename_i hframes
    cases hf
    have hsource := State.source_of_run hr hframes
    have hlie := hlies.finish
    rw [String.ofList_toList] at hsource
    rw [hframes, hsource] at hlie
    simpa [State.settle, base] using hlie
  · cases hf

/-- **The tree is a lossless partition of the text.** The nodes of a script are the calls directly
in it, disjoint and in order, and the gaps between them, each as one piece of text with its escapes
removed. The span of each part of the tree delimits its text: a mention is its name, a call its name
and its arguments in brackets, an argument its source. The nodes of each argument are, in the same
way, the calls directly in it and the gaps between them. -/
theorem read_partitions {source : String} {nodes : List (Node Location)}
    (h : read source = .ok nodes) :
    Partitions source 0 source.utf8ByteSize nodes ∧
      ∀ p ∈ Node.partsAll nodes, p.Faithful source := by
  obtain ⟨hlie, hparts⟩ := lies_readOffsets (mapAll_offset_read h)
  have hlie : Node.Lie Location.offset "".utf8ByteSize nodes source :=
    Node.lie_of_mapAll (f := Location.offset) (g := id) hlie
  have hparts : ∀ p ∈ Node.partsAll nodes, p.Lies Location.offset := by
    intro p hp
    refine Part.lies_of_map (f := Location.offset) (g := id) (hparts _ ?_)
    rw [Node.partsAll_map]
    exact List.mem_map_of_mem hp
  have hs : source = "" ++ source ++ "" := by simp
  constructor
  · simpa using hlie.partitions hs
  · exact Node.faithfulAll nodes (fun n hn span hspan => hlie.standsIn hs hn hspan) hparts

/-- A gap with an escape, an argument that ends in a mention, an empty argument and a lone `$`. -/
theorem read_partitions_empty_argument :
    ∃ nodes, read "é\\;$a[x$b;]$" = .ok nodes ∧
      Node.mapAll (·.offset) nodes =
        [.text "é;",
          .call "$a"
            [⟨[.text "x", .mention "$b" ⟨8, 10⟩], "x$b", ⟨7, 10⟩⟩, ⟨[], "", ⟨11, 11⟩⟩] ⟨4, 12⟩,
          .text "$"] ∧
      Partitions "é\\;$a[x$b;]$" 0 13 nodes ∧
      ∀ p ∈ Node.partsAll nodes, p.Faithful "é\\;$a[x$b;]$" := by
  have ho : readOffsets "é\\;$a[x$b;]$" =
      .ok [.text "é;",
        .call "$a"
          [⟨[.text "x", .mention "$b" ⟨8, 10⟩], "x$b", ⟨7, 10⟩⟩, ⟨[], "", ⟨11, 11⟩⟩] ⟨4, 12⟩,
        .text "$"] := rfl
  obtain ⟨nodes, hn⟩ := exists_read ho
  obtain ⟨hpartitions, hfaithful⟩ := read_partitions hn
  exact ⟨nodes, hn, (Except.ok.inj (ho.symm.trans (mapAll_offset_read hn))).symm, hpartitions,
    hfaithful⟩

end CanvasScript.Script
