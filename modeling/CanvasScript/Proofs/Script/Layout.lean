import CanvasScript.Proofs.Script.Positions
import CanvasScript.Proofs.Text.Slice

/-!
# How a tree lies in its text

A region of a script is a row of calls with gaps between them. This module says what it means that
nodes are such a row, without regard to how they are read.

* `unescape`: a text with its escapes removed; `gap` makes a node of it.
* `Piece`: a gap and the call behind it; `weave` puts pieces together to nodes, `spelled` to text.
* `Node.Lie`: nodes are woven of pieces that spell a text, each call standing where its text does.
* `Argument.Row`: arguments stand one behind the other, with a separator between them.
* `Part.Lies`: the nodes of an argument lie in its text, the arguments of a call in a row.
* `fill`, `Apart`, `Partitions`: the same of one region of a given script, in terms of slices of the
  script alone.

Results:
* `Node.lie_of_mapAll`, `Part.lies_of_map`: how a tree lies does not depend on what its positions
  are made of.
* `Node.Lie.partitions`: nodes that lie in a part of a script partition it.
* `Node.faithfulAll`: if every part of a tree lies as it should, then every span delimits the text
  of its part, and every argument partitions its own.
-/

namespace CanvasScript.Script

variable {π ρ : Type}

/-! ## Escapes -/

/-- A text with its escapes removed, from left to right: a backslash goes if the character behind it
is special, and that character is literal. -/
def unescape : List Char → List Char
  | [] => []
  | [c] => [c]
  | c :: d :: cs =>
    if c = '\\' ∧ isSpecial d = true then d :: unescape cs else c :: unescape (d :: cs)

theorem unescape_cons {c : Char} (h : c ≠ '\\') (cs : List Char) :
    unescape (c :: cs) = c :: unescape cs := by
  cases cs with
  | nil => rfl
  | cons d cs => simp [unescape, h]

theorem unescape_special {c : Char} (h : isSpecial c = true) (cs : List Char) :
    unescape ('\\' :: c :: cs) = c :: unescape cs := by
  simp [unescape, h]

theorem unescape_not_special {c : Char} (h : isSpecial c = false) (cs : List Char) :
    unescape ('\\' :: c :: cs) = '\\' :: c :: unescape cs := by
  have hc : c ≠ '\\' := by
    rintro rfl
    revert h
    decide
  simp [unescape, h, unescape_cons hc]

theorem unescape_eq_nil_iff {cs : List Char} : unescape cs = [] ↔ cs = [] := by
  constructor
  · intro h
    unfold unescape at h
    split at h
    · rfl
    · cases h
    · split at h <;> cases h
  · rintro rfl
    rfl

/-- The node of a text between calls; an empty text has none. -/
def gap (t : String) : List (Node π) :=
  if t.isEmpty then [] else [.text (String.ofList (unescape t.toList))]

/-! ## Nodes as gaps and calls -/

/-- A node as it stands in the script, given its arguments as they stand there. -/
def Node.spelling : Node π → String
  | .text content => content
  | .mention name _ => name
  | .call name arguments _ => name ++ "[" ++ ";".intercalate (arguments.map (·.source)) ++ "]"

/-- Where a call stands. -/
def Node.span? : Node π → Option (Span π)
  | .text _ => none
  | .mention _ span => some span
  | .call _ _ span => some span

/-- The calls directly among nodes, each with its span. -/
def Node.placed (nodes : List (Node π)) : List (Span π × Node π) :=
  nodes.filterMap fun n => n.span?.map (·, n)

/-- A gap, as it stands in the script, and the call behind it. -/
structure Piece (π : Type) where
  gap : String
  call : Node π

namespace Piece

/-- The piece as it stands in the script. -/
def spelling (p : Piece π) : String :=
  p.gap ++ p.call.spelling

/-- The nodes of a piece. -/
def nodes (p : Piece π) : List (Node π) :=
  Script.gap p.gap ++ [p.call]

/-- A piece with its positions mapped. -/
def map (f : π → ρ) (p : Piece π) : Piece ρ :=
  ⟨p.gap, p.call.map f⟩

end Piece

/-- Pieces as they stand in the script. -/
def spelled : List (Piece π) → String
  | [] => ""
  | p :: ps => p.spelling ++ spelled ps

/-- The nodes of pieces. -/
def weave (ps : List (Piece π)) : List (Node π) :=
  ps.flatMap Piece.nodes

/-- The call of each piece stands where its text does, the first piece beginning at `o`. -/
def Seated (pos : π → Nat) : Nat → List (Piece π) → Prop
  | _, [] => True
  | o, p :: ps =>
    (∃ span, p.call.span? = some span ∧ p.call.spelling ≠ "" ∧
      pos span.start = o + p.gap.utf8ByteSize ∧
      pos span.stop = o + p.spelling.utf8ByteSize) ∧
    Seated pos (o + p.spelling.utf8ByteSize) ps

/-- The nodes are calls with gaps between them that spell the text, which begins at `o`. -/
def Node.Lie (pos : π → Nat) (o : Nat) (nodes : List (Node π)) (t : String) : Prop :=
  ∃ pieces last, nodes = weave pieces ++ gap last ∧ t = spelled pieces ++ last ∧
    Seated pos o pieces

/-- Arguments stand one behind the other from `o` on, with a separator between them. -/
def Argument.Row (pos : π → Nat) : Nat → List (Argument π) → Prop
  | _, [] => True
  | o, a :: as =>
    pos a.span.start = o ∧ pos a.span.stop = o + a.source.utf8ByteSize ∧
      Argument.Row pos (o + a.source.utf8ByteSize + 1) as

/-- What is inside a part stands where it should. -/
def Part.Lies (pos : π → Nat) : Part π → Prop
  | .mention _ _ => True
  | .argument a => Node.Lie pos (pos a.span.start) a.nodes a.source
  | .call name arguments span =>
    Argument.Row pos (pos span.start + name.utf8ByteSize + 1) arguments

theorem spelled_append (ps qs : List (Piece π)) :
    spelled (ps ++ qs) = spelled ps ++ spelled qs := by
  induction ps with
  | nil => simp [spelled]
  | cons p ps ih => simp only [List.cons_append, spelled, ih, String.append_assoc]

theorem weave_append (ps qs : List (Piece π)) : weave (ps ++ qs) = weave ps ++ weave qs :=
  List.flatMap_append

theorem seated_append {pos : π → Nat} {o : Nat} {ps qs : List (Piece π)} :
    Seated pos o (ps ++ qs) ↔
      Seated pos o ps ∧ Seated pos (o + (spelled ps).utf8ByteSize) qs := by
  induction ps generalizing o with
  | nil => simp [Seated, spelled]
  | cons p ps ih =>
    simp only [List.cons_append, Seated, ih, spelled, String.utf8ByteSize_append, and_assoc,
      Nat.add_assoc]

/-! ## Other positions -/

theorem Node.spelling_map (f : π → ρ) (n : Node π) : (n.map f).spelling = n.spelling := by
  cases n with
  | text | mention => rfl
  | call name arguments span =>
    have hsources : (Argument.mapAll f arguments).map (·.source) = arguments.map (·.source) := by
      rw [Argument.mapAll_eq_map, List.map_map]
      refine List.map_congr_left fun a _ => ?_
      rw [Function.comp, Argument.map_eq]
    simp only [Node.map, Node.spelling, hsources]

theorem Node.span?_map (f : π → ρ) (n : Node π) :
    (n.map f).span? = n.span?.map (Span.map f) := by
  cases n <;> rfl

theorem Node.map_eq_text {f : π → ρ} {n : Node π} {content : String}
    (h : n.map f = .text content) : n = .text content := by
  cases n with
  | text => cases h; rfl
  | mention | call => cases h

theorem Node.map_eq_call {f : π → ρ} {n : Node π} {name : String} {arguments : List (Argument ρ)}
    {span : Span ρ} (h : n.map f = .call name arguments span) :
    ∃ as s, n = .call name as s ∧ Argument.mapAll f as = arguments := by
  cases n with
  | call name as s =>
    cases h
    exact ⟨as, s, rfl, rfl⟩
  | text | mention => cases h

theorem map_eq_gap {f : π → ρ} {ns : List (Node π)} {t : String}
    (h : ns.map (Node.map f) = gap t) : ns = gap t := by
  unfold gap at h ⊢
  split at h
  · rename_i ht
    rw [if_pos ht]
    exact List.map_eq_nil_iff.1 h
  · rename_i ht
    rw [if_neg ht]
    obtain ⟨n, rfl, hn⟩ := List.map_eq_singleton_iff.1 h
    rw [Node.map_eq_text hn]

theorem map_eq_weave {f : π → ρ} {ns : List (Node π)} {ps : List (Piece ρ)} {last : String}
    (h : ns.map (Node.map f) = weave ps ++ gap last) :
    ∃ qs, ns = weave qs ++ gap last ∧ qs.map (Piece.map f) = ps := by
  induction ps generalizing ns with
  | nil => exact ⟨[], map_eq_gap h, rfl⟩
  | cons p ps ih =>
    have hsplit : ns.map (Node.map f) = gap p.gap ++ (p.call :: (weave ps ++ gap last)) := by
      simpa [weave, Piece.nodes] using h
    obtain ⟨ns₁, ns₂, rfl, h₁, h₂⟩ := List.map_eq_append_iff.1 hsplit
    obtain ⟨n, ns₃, rfl, hn, h₃⟩ := List.map_eq_cons_iff.1 h₂
    obtain ⟨qs, rfl, rfl⟩ := ih h₃
    refine ⟨⟨p.gap, n⟩ :: qs, ?_, ?_⟩
    · simp [weave, Piece.nodes, map_eq_gap h₁]
    · simp [Piece.map, hn]

theorem Piece.spelling_map (f : π → ρ) (p : Piece π) : (p.map f).spelling = p.spelling := by
  unfold spelling
  rw [map, Node.spelling_map]

theorem spelled_map (f : π → ρ) (ps : List (Piece π)) :
    spelled (ps.map (Piece.map f)) = spelled ps := by
  induction ps with
  | nil => rfl
  | cons p ps ih => simp only [List.map_cons, spelled, ih, Piece.spelling_map]

theorem seated_of_map {f : π → ρ} {g : ρ → Nat} {o : Nat} {ps : List (Piece π)}
    (h : Seated g o (ps.map (Piece.map f))) : Seated (g ∘ f) o ps := by
  induction ps generalizing o with
  | nil => trivial
  | cons p ps ih =>
    obtain ⟨⟨span, hspan, hne, hstart, hstop⟩, hrest⟩ := h
    rw [Piece.spelling_map] at hstop hrest
    rw [Piece.map, Node.span?_map, Option.map_eq_some_iff] at hspan
    obtain ⟨span, hspan, rfl⟩ := hspan
    rw [Piece.map, Node.spelling_map] at hne
    exact ⟨⟨span, hspan, hne, hstart, hstop⟩, ih hrest⟩

theorem Node.lie_of_mapAll {f : π → ρ} {g : ρ → Nat} {o : Nat} {ns : List (Node π)} {t : String}
    (h : Node.Lie g o (Node.mapAll f ns) t) : Node.Lie (g ∘ f) o ns t := by
  obtain ⟨ps, last, hns, ht, hseated⟩ := h
  rw [Node.mapAll_eq_map] at hns
  obtain ⟨qs, hqs, rfl⟩ := map_eq_weave hns
  rw [spelled_map] at ht
  exact ⟨qs, last, hqs, ht, seated_of_map hseated⟩

theorem Argument.row_of_mapAll {f : π → ρ} {g : ρ → Nat} {o : Nat} {as : List (Argument π)}
    (h : Argument.Row g o (Argument.mapAll f as)) : Argument.Row (g ∘ f) o as := by
  induction as generalizing o with
  | nil => trivial
  | cons a as ih =>
    rw [Argument.mapAll, Argument.map_eq] at h
    obtain ⟨hstart, hstop, hrest⟩ := h
    exact ⟨hstart, hstop, ih hrest⟩

theorem Part.lies_of_map {f : π → ρ} {g : ρ → Nat} {p : Part π} (h : (p.map f).Lies g) :
    p.Lies (g ∘ f) := by
  cases p with
  | mention => trivial
  | argument a =>
    rw [Part.map, Argument.map_eq] at h
    exact Node.lie_of_mapAll h
  | call name arguments span => exact Argument.row_of_mapAll h

/-! ## Regions of a script -/

/-- Calls with the gaps between them: the nodes of the part of a script from `start` to `stop`, if
these are the calls directly in it. -/
def fill (source : String) (start stop : Nat) :
    List (Span Location × Node Location) → List (Node Location)
  | [] => gap (Text.sliceOrEmpty source start stop)
  | (span, call) :: calls =>
    gap (Text.sliceOrEmpty source start span.start.offset) ++
      call :: fill source span.stop.offset stop calls

/-- The spans stand one behind the other between two offsets, and none is empty. -/
def Apart (start stop : Nat) : List (Span Location) → Prop
  | [] => start ≤ stop
  | span :: spans =>
    start ≤ span.start.offset ∧ span.start.offset < span.stop.offset ∧
      Apart span.stop.offset stop spans

/-- The calls among the nodes are disjoint, in order and within the region, and the nodes are those
calls and the gaps between them. -/
structure Partitions (source : String) (start stop : Nat) (nodes : List (Node Location)) :
    Prop where
  apart : Apart start stop ((Node.placed nodes).map (·.1))
  filled : nodes = fill source start stop (Node.placed nodes)

/-- The text stands in the script between the ends of the span. -/
def StandsIn (source : String) (span : Span Location) (t : String) : Prop :=
  ∃ before after, source = before ++ t ++ after ∧
    span.start.offset = before.utf8ByteSize ∧
    span.stop.offset = before.utf8ByteSize + t.utf8ByteSize

variable {source : String}

theorem StandsIn.slice {span : Span Location} {t : String} (h : StandsIn source span t) :
    span.slice source = t := by
  obtain ⟨before, after, heq, hstart, hstop⟩ := h
  unfold Span.slice
  rw [hstart, hstop]
  exact Text.sliceOrEmpty_of_eq heq

theorem placed_gap (t : String) : Node.placed (gap t : List (Node π)) = [] := by
  unfold gap
  split <;> rfl

theorem not_mem_gap {n : Node π} {span : Span π} (h : n.span? = some span) (t : String) :
    n ∉ gap t := by
  unfold gap
  split
  · exact List.not_mem_nil
  · rw [List.mem_singleton]
    rintro rfl
    cases h

theorem placed_cons {n : Node π} {span : Span π} (h : n.span? = some span) (ns : List (Node π)) :
    Node.placed (n :: ns) = (span, n) :: Node.placed ns := by
  simp [Node.placed, h]

theorem placed_append (ns ms : List (Node π)) :
    Node.placed (ns ++ ms) = Node.placed ns ++ Node.placed ms :=
  List.filterMap_append

/-- The call of a piece comes before those of the pieces behind it. -/
theorem placed_weave {p : Piece π} {span : Span π} (h : p.call.span? = some span)
    (ps : List (Piece π)) (last : String) :
    Node.placed (weave (p :: ps) ++ gap last) =
      (span, p.call) :: Node.placed (weave ps ++ gap last) := by
  have hnodes : weave (p :: ps) ++ gap last = gap p.gap ++ p.call :: (weave ps ++ gap last) := by
    simp [weave, Piece.nodes]
  rw [hnodes, placed_append, placed_gap, placed_cons h, List.nil_append]

/-- Nodes that lie in a part of a script partition it. -/
theorem Node.Lie.partitions {before t after : String} {nodes : List (Node Location)}
    (h : Node.Lie Location.offset before.utf8ByteSize nodes t)
    (hs : source = before ++ t ++ after) :
    Partitions source before.utf8ByteSize (before.utf8ByteSize + t.utf8ByteSize) nodes := by
  obtain ⟨ps, last, rfl, rfl, hseated⟩ := h
  induction ps generalizing before with
  | nil =>
    have hslice := Text.sliceOrEmpty_of_eq hs
    constructor
    · simp [weave, placed_gap, Apart]
    · simp only [weave, List.flatMap_nil, List.nil_append, placed_gap, fill, hslice]
      simp [spelled]
  | cons p ps ih =>
    obtain ⟨⟨span, hspan, hne, hstart, hstop⟩, hrest⟩ := hseated
    have hrest' : source = before ++ p.spelling ++ (spelled ps ++ last) ++ after := by
      rw [hs]
      simp only [spelled, String.append_assoc]
    have hgap : Text.sliceOrEmpty source before.utf8ByteSize span.start.offset = p.gap := by
      have hgap : source =
          before ++ p.gap ++ (p.call.spelling ++ (spelled ps ++ last) ++ after) := by
        rw [hrest']
        simp only [Piece.spelling, String.append_assoc]
      rw [hstart]
      exact Text.sliceOrEmpty_of_eq hgap
    have hplaced := placed_weave hspan ps last
    have hstop' : span.stop.offset = (before ++ p.spelling).utf8ByteSize := by
      rw [hstop, String.utf8ByteSize_append]
    have hsize : before.utf8ByteSize + (spelled (p :: ps) ++ last).utf8ByteSize =
        (before ++ p.spelling).utf8ByteSize + (spelled ps ++ last).utf8ByteSize := by
      simp only [spelled, String.utf8ByteSize_append, Nat.add_assoc]
    rw [← String.utf8ByteSize_append] at hrest
    obtain ⟨hapart, hfilled⟩ := ih hrest hrest'
    have hpos : 0 < p.call.spelling.utf8ByteSize :=
      Nat.pos_of_ne_zero fun h => hne (String.utf8ByteSize_eq_zero_iff.1 h)
    rw [hsize]
    constructor
    · rw [hplaced]
      refine ⟨?_, ?_, ?_⟩
      · rw [hstart]
        exact Nat.le_add_right _ _
      · rw [hstart, hstop, Piece.spelling, String.utf8ByteSize_append]
        omega
      · rw [hstop']
        exact hapart
    · rw [hplaced, fill, hgap, hstop', ← hfilled]
      simp [weave, Piece.nodes]

/-- Calls that lie in a part of a script stand in it. -/
theorem Node.Lie.standsIn {before t after : String} {nodes : List (Node Location)}
    (h : Node.Lie Location.offset before.utf8ByteSize nodes t)
    (hs : source = before ++ t ++ after) {n : Node Location} (hn : n ∈ nodes)
    {span : Span Location} (hspan : n.span? = some span) : StandsIn source span n.spelling := by
  obtain ⟨ps, last, rfl, rfl, hseated⟩ := h
  induction ps generalizing before with
  | nil => simp [weave, not_mem_gap hspan] at hn
  | cons p ps ih =>
    obtain ⟨⟨span', hspan', -, hstart, hstop⟩, hrest⟩ := hseated
    have hrest' : source = before ++ p.spelling ++ (spelled ps ++ last) ++ after := by
      rw [hs]
      simp only [spelled, String.append_assoc]
    have hcases : n = p.call ∨ n ∈ weave ps ++ gap last := by
      simpa [weave, Piece.nodes, not_mem_gap hspan] using hn
    rcases hcases with rfl | hn
    · rw [hspan] at hspan'
      cases hspan'
      refine ⟨before ++ p.gap, spelled ps ++ last ++ after, ?_, ?_, ?_⟩
      · rw [hrest']
        simp only [Piece.spelling, String.append_assoc]
      · rw [hstart, String.utf8ByteSize_append]
      · rw [hstop, Piece.spelling]
        simp only [String.utf8ByteSize_append, Nat.add_assoc]
    · rw [← String.utf8ByteSize_append] at hrest
      exact ih hn hrest hrest'

/-- Arguments in a row stand in the script. -/
theorem Argument.Row.standsIn {before after : String} {as : List (Argument Location)}
    (h : Argument.Row Location.offset before.utf8ByteSize as)
    (hs : source = before ++ ";".intercalate (as.map (·.source)) ++ after)
    {a : Argument Location} (ha : a ∈ as) : StandsIn source a.span a.source := by
  induction as generalizing before with
  | nil => cases ha
  | cons b as ih =>
    obtain ⟨hstart, hstop, hrest⟩ := h
    have hjoin : ∃ tail, ";".intercalate ((b :: as).map (·.source)) = b.source ++ tail ∧
        (as ≠ [] → tail = ";" ++ ";".intercalate (as.map (·.source))) := by
      by_cases has : as = []
      · subst has
        exact ⟨"", by simp, fun h => absurd rfl h⟩
      · refine ⟨_, ?_, fun _ => rfl⟩
        rw [List.map_cons, String.intercalate_cons_of_ne_nil (by simpa using has),
          String.append_assoc]
    obtain ⟨tail, hjoin, htail⟩ := hjoin
    have hs' : source = before ++ b.source ++ (tail ++ after) := by
      rw [hs, hjoin]
      simp only [String.append_assoc]
    rcases List.mem_cons.1 ha with rfl | ha
    · exact ⟨before, tail ++ after, hs', hstart, hstop⟩
    · have hbehind : source = before ++ b.source ++ ";" ++
          ";".intercalate (as.map (·.source)) ++ after := by
        rw [hs', htail (List.ne_nil_of_mem ha)]
        simp only [String.append_assoc]
      refine ih ?_ hbehind ha
      rw [String.utf8ByteSize_append, String.utf8ByteSize_append]
      exact hrest

/-! ## All parts of a script -/

/-- What a part says of a script: its span delimits its text, and an argument is partitioned. -/
def Part.Faithful (source : String) : Part Location → Prop
  | .mention name span => span.slice source = name
  | .argument a =>
    a.span.slice source = a.source ∧
      Partitions source a.span.start.offset a.span.stop.offset a.nodes
  | .call name arguments span =>
    span.slice source = name ++ "[" ++ ";".intercalate (arguments.map (·.source)) ++ "]"

mutual

theorem Node.faithful : ∀ n : Node Location,
    (∀ span, n.span? = some span → StandsIn source span n.spelling) →
    (∀ p ∈ n.parts, p.Lies Location.offset) → ∀ p ∈ n.parts, p.Faithful source
  | .text _, _, _, p, hp => by cases hp
  | .mention name span, hn, _, p, hp => by
    rw [Node.parts, List.mem_singleton] at hp
    subst hp
    exact (hn span rfl).slice
  | .call name arguments span, hn, hl, p, hp => by
    have hstands := hn span rfl
    have hrow :
        Argument.Row Location.offset (span.start.offset + name.utf8ByteSize + 1) arguments :=
      hl (.call name arguments span) (by simp [Node.parts])
    rw [Node.parts, List.mem_append, List.mem_singleton] at hp
    rcases hp with hp | rfl
    · refine Argument.faithfulAll arguments (fun a ha => ?_)
        (fun p hp => hl p (by simp [Node.parts, hp])) p hp
      obtain ⟨before, after, hs, hstart, -⟩ := hstands
      have hbrackets : source =
          before ++ name ++ "[" ++ ";".intercalate (arguments.map (·.source)) ++
            ("]" ++ after) := by
        rw [hs]
        simp only [Node.spelling, String.append_assoc]
      refine Argument.Row.standsIn ?_ hbrackets ha
      rw [String.utf8ByteSize_append, String.utf8ByteSize_append, ← hstart]
      exact hrow
    · exact hstands.slice

theorem Argument.faithful : ∀ a : Argument Location, StandsIn source a.span a.source →
    (∀ p ∈ a.parts, p.Lies Location.offset) → ∀ p ∈ a.parts, p.Faithful source
  | ⟨nodes, text, span⟩, ha, hl, p, hp => by
    have hlie : Node.Lie Location.offset span.start.offset nodes text :=
      hl (.argument ⟨nodes, text, span⟩) (by simp [Argument.parts])
    have hslice := ha.slice
    obtain ⟨before, after, hs, hstart, hstop⟩ := ha
    rw [hstart] at hlie
    rw [Argument.parts, List.mem_append, List.mem_singleton] at hp
    rcases hp with hp | rfl
    · exact Node.faithfulAll nodes (fun n hn span hspan => hlie.standsIn hs hn hspan)
        (fun p hp => hl p (by simp [Argument.parts, hp])) p hp
    · refine ⟨hslice, ?_⟩
      rw [hstart, hstop]
      exact hlie.partitions hs

theorem Argument.faithfulAll : ∀ as : List (Argument Location),
    (∀ a ∈ as, StandsIn source a.span a.source) →
    (∀ p ∈ Argument.partsAll as, p.Lies Location.offset) →
    ∀ p ∈ Argument.partsAll as, p.Faithful source
  | [], _, _, p, hp => by cases hp
  | a :: as, ha, hl, p, hp => by
    obtain ⟨hfirst, hrest⟩ := List.forall_mem_cons.1 ha
    rw [Argument.partsAll, List.mem_append] at hp
    rcases hp with hp | hp
    · exact Argument.faithful a hfirst (fun p hp => hl p (by simp [Argument.partsAll, hp])) p hp
    · exact Argument.faithfulAll as hrest (fun p hp => hl p (by simp [Argument.partsAll, hp])) p hp

/-- If the parts of a tree lie as they should and its calls stand in the script, every part of it is
faithful. -/
theorem Node.faithfulAll : ∀ ns : List (Node Location),
    (∀ n ∈ ns, ∀ span, n.span? = some span → StandsIn source span n.spelling) →
    (∀ p ∈ Node.partsAll ns, p.Lies Location.offset) →
    ∀ p ∈ Node.partsAll ns, p.Faithful source
  | [], _, _, p, hp => by cases hp
  | n :: ns, hn, hl, p, hp => by
    obtain ⟨hfirst, hrest⟩ := List.forall_mem_cons.1 hn
    rw [Node.partsAll, List.mem_append] at hp
    rcases hp with hp | hp
    · exact Node.faithful n hfirst (fun p hp => hl p (by simp [Node.partsAll, hp])) p hp
    · exact Node.faithfulAll ns hrest (fun p hp => hl p (by simp [Node.partsAll, hp])) p hp

end

end CanvasScript.Script
