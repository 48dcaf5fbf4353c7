import CanvasScript.Proofs.Script.Parts

/-!
# Where the parts of a script stand

* `State.Bounded`: no position that the reader has noted lies ahead of it. Hence the positions of
  the finished tree lie within the script (`within_readOffsets`), and the cursor that turns
  offsets into locations changes none of them (`mapAll_offset_read`).
* `Site`: the name and the span of a call with brackets; `Node.sites` lists the calls of a tree in
  the order in which they end.

Results:
* `ends_readOffsets`: of two calls with brackets, the one listed first ends first.
* `sites_read`: the same for the tree with locations.
-/

namespace CanvasScript.Script

variable {π ρ σ : Type}

/-! ## Maps of positions -/

theorem Node.mapAll_eq_map (f : π → ρ) (ns : List (Node π)) :
    Node.mapAll f ns = ns.map (Node.map f) := by
  induction ns with
  | nil => rfl
  | cons n ns ih => rw [Node.mapAll, ih, List.map_cons]

theorem Argument.mapAll_eq_map (f : π → ρ) (as : List (Argument π)) :
    Argument.mapAll f as = as.map (Argument.map f) := by
  induction as with
  | nil => rfl
  | cons a as ih => rw [Argument.mapAll, ih, List.map_cons]

theorem Argument.map_eq (f : π → ρ) (a : Argument π) :
    a.map f = ⟨Node.mapAll f a.nodes, a.source, a.span.map f⟩ := by
  cases a
  rfl

mutual

theorem Node.map_map (f : π → ρ) (g : ρ → σ) : ∀ n : Node π, (n.map f).map g = n.map (g ∘ f)
  | .text _ => rfl
  | .mention _ _ => rfl
  | .call name arguments span => by
    simp only [Node.map, Argument.mapAll_mapAll f g arguments]
    rfl

theorem Argument.map_map (f : π → ρ) (g : ρ → σ) :
    ∀ a : Argument π, (a.map f).map g = a.map (g ∘ f)
  | ⟨nodes, source, span⟩ => by
    simp only [Argument.map, Node.mapAll_mapAll f g nodes]
    rfl

theorem Argument.mapAll_mapAll (f : π → ρ) (g : ρ → σ) : ∀ as : List (Argument π),
    Argument.mapAll g (Argument.mapAll f as) = Argument.mapAll (g ∘ f) as
  | [] => rfl
  | a :: as => by
    simp only [Argument.mapAll, Argument.map_map f g a, Argument.mapAll_mapAll f g as]

theorem Node.mapAll_mapAll (f : π → ρ) (g : ρ → σ) : ∀ ns : List (Node π),
    Node.mapAll g (Node.mapAll f ns) = Node.mapAll (g ∘ f) ns
  | [] => rfl
  | n :: ns => by
    simp only [Node.mapAll, Node.map_map f g n, Node.mapAll_mapAll f g ns]

end

/-- The map leaves the two ends of a span where they are. -/
def Span.Fixed (f : π → π) (s : Span π) : Prop :=
  f s.start = s.start ∧ f s.stop = s.stop

theorem Span.map_fixed {f : π → π} {s : Span π} (h : s.Fixed f) : s.map f = s := by
  simp only [Span.map, h.1, h.2]

mutual

theorem Node.map_fixed {f : π → π} : ∀ n : Node π, (∀ p ∈ n.parts, p.span.Fixed f) → n.map f = n
  | .text _, _ => rfl
  | .mention name span, h => by
    have hs : span.Fixed f := h (.mention name span) (by simp [Node.parts])
    simp only [Node.map, Span.map_fixed hs]
  | .call name arguments span, h => by
    have hs : span.Fixed f := h (.call name arguments span) (by simp [Node.parts])
    have ha := Argument.mapAll_fixed arguments fun p hp => h p (by simp [Node.parts, hp])
    simp only [Node.map, Span.map_fixed hs, ha]

theorem Argument.map_fixed {f : π → π} : ∀ a : Argument π,
    (∀ p ∈ a.parts, p.span.Fixed f) → a.map f = a
  | ⟨nodes, source, span⟩, h => by
    have hs : span.Fixed f := h (.argument ⟨nodes, source, span⟩) (by simp [Argument.parts])
    have hn := Node.mapAll_fixed nodes fun p hp => h p (by simp [Argument.parts, hp])
    simp only [Argument.map, Span.map_fixed hs, hn]

theorem Argument.mapAll_fixed {f : π → π} : ∀ as : List (Argument π),
    (∀ p ∈ Argument.partsAll as, p.span.Fixed f) → Argument.mapAll f as = as
  | [], _ => rfl
  | a :: as, h => by
    have ha := Argument.map_fixed a fun p hp => h p (by simp [Argument.partsAll, hp])
    have has := Argument.mapAll_fixed as fun p hp => h p (by simp [Argument.partsAll, hp])
    simp only [Argument.mapAll, ha, has]

/-- A map that leaves every part of a tree where it stands leaves the tree as it is. -/
theorem Node.mapAll_fixed {f : π → π} : ∀ ns : List (Node π),
    (∀ p ∈ Node.partsAll ns, p.span.Fixed f) → Node.mapAll f ns = ns
  | [], _ => rfl
  | n :: ns, h => by
    have hn := Node.map_fixed n fun p hp => h p (by simp [Node.partsAll, hp])
    have hns := Node.mapAll_fixed ns fun p hp => h p (by simp [Node.partsAll, hp])
    simp only [Node.mapAll, hn, hns]

end

theorem Node.bare_mapAll (f : π → ρ) (ns : List (Node π)) :
    Node.bare (Node.mapAll f ns) = Node.bare ns :=
  Node.mapAll_mapAll f _ ns

/-! ## From offsets to locations -/

mutual

theorem Node.map_offset_locate (source : String) : ∀ (n : Node Nat) (l : Location),
    (n.locate source l).1.map (·.offset) = n.map (min · source.utf8ByteSize)
  | .text _, _ => rfl
  | .mention _ _, _ => rfl
  | .call name arguments span, l => by
    simp only [Node.locate, Node.map, Argument.mapAll_offset_locateAll source arguments]
    rfl

theorem Argument.map_offset_locate (source : String) : ∀ (a : Argument Nat) (l : Location),
    (a.locate source l).1.map (·.offset) = a.map (min · source.utf8ByteSize)
  | ⟨nodes, text, span⟩, l => by
    simp only [Argument.locate, Argument.map, Node.mapAll_offset_locateAll source nodes]
    rfl

theorem Argument.mapAll_offset_locateAll (source : String) :
    ∀ (as : List (Argument Nat)) (l : Location),
      Argument.mapAll (·.offset) (Argument.locateAll source as l).1 =
        Argument.mapAll (min · source.utf8ByteSize) as
  | [], _ => rfl
  | a :: as, l => by
    simp only [Argument.locateAll, Argument.mapAll, Argument.map_offset_locate source a,
      Argument.mapAll_offset_locateAll source as]

/-- The cursor leaves offsets within the script as they are, wherever it starts. -/
theorem Node.mapAll_offset_locateAll (source : String) : ∀ (ns : List (Node Nat)) (l : Location),
    Node.mapAll (·.offset) (Node.locateAll source ns l).1 =
      Node.mapAll (min · source.utf8ByteSize) ns
  | [], _ => rfl
  | n :: ns, l => by
    simp only [Node.locateAll, Node.mapAll, Node.map_offset_locate source n,
      Node.mapAll_offset_locateAll source ns]

end

/-! ## The positions that the reader notes -/

/-- A call with brackets, by its name and its place. -/
structure Site (π : Type) where
  name : String
  span : Span π

/-- The site of a call. -/
def Part.site? : Part π → Option (Site π)
  | .call name _ span => some ⟨name, span⟩
  | _ => none

/-- The calls with brackets of a tree, at any depth, in the order in which they end. -/
def Node.sites (ns : List (Node π)) : List (Site π) :=
  (Node.partsAll ns).filterMap Part.site?

/-- Each of the calls ends before the next one does. -/
def EndInOrder (l : List (Site Nat)) : Prop :=
  l.Pairwise fun a b => a.span.stop < b.span.stop

namespace State

/-- No position that the reader has noted lies ahead of it, and no part ends before it begins. -/
structure Bounded (s : State) : Prop where
  pending : ∀ start letters, s.pending = .name start letters → start ≤ s.offset
  frames : ∀ f ∈ s.frames, f.start ≤ s.offset ∧ f.opened ≤ s.offset
  parts : ∀ p ∈ s.parts, p.span.start ≤ p.span.stop ∧ p.span.stop ≤ s.offset
  ordered : EndInOrder (s.parts.filterMap Part.site?)

theorem bounded_initial : Bounded {} where
  pending _ _ h := by cases h
  frames _ h := by cases h
  parts _ h := by cases h
  ordered := .nil

theorem settled_bounds {s : State} (h : s.Bounded) :
    ∀ p ∈ s.settled, p.span.start ≤ p.span.stop ∧ p.span.stop ≤ s.offset := by
  intro p hp
  obtain ⟨start, letters, hs, rfl⟩ := mem_settled hp
  exact ⟨h.pending start letters hs, Nat.le_refl _⟩

theorem site?_settled (s : State) : s.settled.filterMap Part.site? = [] := by
  rw [List.filterMap_eq_nil_iff]
  intro p hp
  obtain ⟨start, letters, -, rfl⟩ := mem_settled hp
  rfl

theorem bounded_settle {s : State} (h : s.Bounded) : s.settle.Bounded where
  pending start letters hs := by
    rw [settle_pending] at hs
    cases hs
  frames f hf := by
    rw [settle_frames] at hf
    rw [settle_offset]
    exact h.frames f hf
  parts p hp := by
    rw [parts_settle, List.mem_append] at hp
    rw [settle_offset]
    rcases hp with hp | hp
    · exact h.parts p hp
    · exact settled_bounds h p hp
  ordered := by
    rw [parts_settle, List.filterMap_append, site?_settled, List.append_nil]
    exact h.ordered

/-- What a separator or a closing bracket finishes begins at a noted position and ends at most one
byte further on. -/
theorem finishes_bounds {s : State} (h : s.Bounded) {new : List (Part Nat)} (hn : s.Finishes new) :
    ∀ p ∈ new, p.span.start ≤ p.span.stop ∧ p.span.stop ≤ s.offset + 1 := by
  intro p hp
  cases hn with
  | nothing => cases hp
  | argument f fs hf =>
    obtain ⟨-, ho⟩ := h.frames f (hf ▸ List.mem_cons_self)
    rw [List.mem_singleton] at hp
    subst hp
    exact ⟨ho, Nat.le_succ _⟩
  | emptyCall f fs hf =>
    obtain ⟨hs, -⟩ := h.frames f (hf ▸ List.mem_cons_self)
    rw [List.mem_singleton] at hp
    subst hp
    exact ⟨Nat.le_succ_of_le hs, Nat.le_refl _⟩
  | call f fs hf _ arguments =>
    obtain ⟨hs, ho⟩ := h.frames f (hf ▸ List.mem_cons_self)
    simp only [List.mem_cons, List.not_mem_nil, or_false] at hp
    rcases hp with rfl | rfl
    · exact ⟨ho, Nat.le_succ _⟩
    · exact ⟨Nat.le_succ_of_le hs, Nat.le_refl _⟩

/-- At most one call is finished at a time, and it ends behind everything that is there. -/
theorem ordered_finishes {s : State} (h : s.Bounded) {new : List (Part Nat)}
    (hn : s.Finishes new) : EndInOrder ((s.parts ++ new).filterMap Part.site?) := by
  have behind : ∀ a ∈ s.parts.filterMap Part.site?, a.span.stop < s.offset + 1 := by
    intro a ha
    obtain ⟨p, hp, hpa⟩ := List.mem_filterMap.1 ha
    cases p with
    | mention | argument => cases hpa
    | call name arguments span =>
      cases hpa
      exact Nat.lt_succ_of_le (h.parts _ hp).2
  rw [List.filterMap_append]
  cases hn with
  | nothing | argument =>
    simp only [List.filterMap_cons, List.filterMap_nil, Part.site?, List.append_nil]
    exact h.ordered
  | emptyCall | call =>
    simp only [List.filterMap_cons, List.filterMap_nil, Part.site?]
    refine List.pairwise_append.2 ⟨h.ordered, List.pairwise_singleton .., fun a ha b hb => ?_⟩
    rw [List.mem_singleton] at hb
    subst hb
    exact behind a ha

/-- The frames of a plain step begin where those before it do, or at the next argument. -/
theorem frames_plain {s : State} (h : s.Bounded) (c : Char) :
    ∀ f ∈ (s.plain c).frames, f.start ≤ (s.plain c).offset ∧ f.opened ≤ (s.plain c).offset := by
  have later : ∀ f ∈ s.frames, f.start ≤ (s.plain c).offset ∧ f.opened ≤ (s.plain c).offset := by
    intro f hf
    obtain ⟨h₁, h₂⟩ := h.frames f hf
    rw [offset_plain]
    omega
  have hp := s.plain_spec c
  generalize s.plain c = s' at hp later
  cases hp with
  | backslash | dollar | outside | inside => exact later
  | openBare hc f fs hf | closeBare hc f fs hf =>
    rw [hf] at later
    exact List.forall_mem_cons.2 (List.forall_mem_cons.1 later)
  | separate hc f fs hf =>
    rw [hf] at later
    obtain ⟨hfirst, hrest⟩ := List.forall_mem_cons.1 later
    exact List.forall_mem_cons.2 ⟨⟨hfirst.1, Nat.le_refl _⟩, hrest⟩
  | close hc f fs hf =>
    rw [hf] at later
    exact (List.forall_mem_cons.1 later).2

theorem pending_plain {s : State} (h : s.pending = .nothing) (c : Char) (start : Nat)
    (letters : String) (hp : (s.plain c).pending = .name start letters) :
    start ≤ (s.plain c).offset := by
  have hs := s.plain_spec c
  generalize s.plain c = s' at hs hp
  cases hs with
  | backslash => cases hp
  | dollar =>
    cases hp
    exact Nat.le_succ _
  | outside | inside | openBare | closeBare =>
    have hn : s.pending = .name start letters := hp
    rw [h] at hn
    cases hn
  | separate | close => cases hp

theorem bounded_plain {s : State} (h : s.Bounded) (hs : s.Founded) (hp : s.pending = .nothing)
    (c : Char) : (s.plain c).Bounded := by
  obtain ⟨new, hn, hparts⟩ := parts_plain hs c
  have hle : s.offset + 1 ≤ (s.plain c).offset := by
    rw [offset_plain]
    exact Nat.add_le_add_left c.utf8Size_pos _
  refine ⟨pending_plain hp c, frames_plain h c, fun p hp => ?_, ?_⟩
  · rw [hparts, List.mem_append] at hp
    rcases hp with hp | hp
    · have := h.parts p hp
      omega
    · have := finishes_bounds h hn p hp
      omega
  · rw [hparts]
    exact ordered_finishes h hn

/-- A step that finishes nothing keeps what is noted, apart from a call that begins. -/
theorem Bounded.later {s t : State} (h : s.Bounded) (ho : s.offset ≤ t.offset)
    (hp : t.parts = s.parts)
    (hn : ∀ start letters, t.pending = .name start letters → start ≤ t.offset)
    (hf : ∀ f ∈ t.frames, f ∈ s.frames ∨ f.start ≤ t.offset ∧ f.opened ≤ t.offset) :
    t.Bounded := by
  refine ⟨hn, fun f hm => ?_, fun p hm => ?_, hp ▸ h.ordered⟩
  · rcases hf f hm with hm | hm
    · obtain ⟨h₁, h₂⟩ := h.frames f hm
      omega
    · exact hm
  · obtain ⟨h₁, h₂⟩ := h.parts p (hp ▸ hm)
    omega

theorem bounded_step {s s' : State} {c : Char} (h : s.Bounded) (hf : s.Founded)
    (hs : s.step c = .ok s') : s'.Bounded := by
  cases step_spec hs with
  | plain => exact bounded_plain (bounded_settle h) (founded_settle hf) s.settle_pending c
  | unescape =>
    exact h.later (Nat.le_succ _) rfl nofun fun f hm => .inl hm
  | letter start letters hp =>
    refine h.later (Nat.le_succ _) rfl (fun _ _ hq => ?_) fun f hm => .inl hm
    cases hq
    exact Nat.le_succ_of_le (h.pending start letters hp)
  | call start letters hp =>
    refine h.later (Nat.le_succ _) (parts_openCall ..) nofun fun f hm => ?_
    rcases List.mem_cons.1 hm with rfl | hm
    · exact .inr ⟨Nat.le_succ_of_le (h.pending start letters hp), Nat.le_refl _⟩
    · exact .inl hm

/-- Every state that is reached from the beginning is bounded, and its regions are founded. -/
theorem bounded_run {s : State} {cs : List Char} (h : ({} : State).run cs = .ok s) :
    s.Founded ∧ s.Bounded :=
  run_invariant (P := fun _ s => s.Founded ∧ s.Bounded)
    (fun _ _ _ _ hs hc => ⟨founded_step hs.1 hc, bounded_step hs.2 hs.1 hc⟩) []
    ⟨fun _ => rfl, bounded_initial⟩ h

end State

/-! ## The finished tree -/

theorem readOffsets_of_run {source : String} {s : State}
    (h : ({} : State).run source.toList = .ok s) : readOffsets source = s.finish := by
  rw [readOffsets, h]
  rfl

theorem readOffsets_ok {source : String} {nodes : List (Node Nat)}
    (h : readOffsets source = .ok nodes) :
    ∃ s : State, ({} : State).run source.toList = .ok s ∧ s.finish = .ok nodes := by
  unfold readOffsets at h
  cases hr : ({} : State).run source.toList with
  | error e =>
    rw [hr] at h
    cases h
  | ok s =>
    rw [hr] at h
    exact ⟨s, rfl, h⟩

/-- Every part of a script lies within it. -/
theorem within_readOffsets {source : String} {nodes : List (Node Nat)}
    (h : readOffsets source = .ok nodes) :
    ∀ p ∈ Node.partsAll nodes,
      p.span.start ≤ p.span.stop ∧ p.span.stop ≤ source.utf8ByteSize := by
  obtain ⟨s, hr, hf⟩ := readOffsets_ok h
  have ho := State.offset_run hr
  rw [String.ofList_toList] at ho
  have hb := (State.bounded_settle (State.bounded_run hr).2).parts
  rw [← State.parts_finish hf, State.settle_offset, ho] at hb
  simpa using hb

/-- Of two calls with brackets, the one listed first ends first. -/
theorem ends_readOffsets {source : String} {nodes : List (Node Nat)}
    (h : readOffsets source = .ok nodes) : EndInOrder (Node.sites nodes) := by
  obtain ⟨s, hr, hf⟩ := readOffsets_ok h
  have hb := (State.bounded_settle (State.bounded_run hr).2).ordered
  rwa [← State.parts_finish hf] at hb

/-- The tree with locations is the tree with offsets. -/
theorem mapAll_offset_read {source : String} {nodes : List (Node Location)}
    (h : read source = .ok nodes) :
    readOffsets source = .ok (Node.mapAll (·.offset) nodes) := by
  rcases read_cases source with ⟨ns, hr, hread⟩ | ⟨e, l, -, hread⟩
  · cases hread.symm.trans h
    rw [hr, Node.mapAll_offset_locateAll, Node.mapAll_fixed]
    intro p hp
    have := within_readOffsets hr p hp
    exact ⟨Nat.min_eq_left (by omega), Nat.min_eq_left this.2⟩
  · cases hread.symm.trans h

theorem exists_read {source : String} {nodes : List (Node Nat)}
    (h : readOffsets source = .ok nodes) : ∃ located, read source = .ok located :=
  ⟨_, read_of_readOffsets h⟩

/-- The site with its place given by offsets. -/
def Site.offsets (s : Site Location) : Site Nat :=
  ⟨s.name, s.span.map (·.offset)⟩

/-- The calls with brackets of a script are listed in the order in which they end. -/
theorem sites_read {source : String} {nodes : List (Node Location)}
    (h : read source = .ok nodes) : EndInOrder ((Node.sites nodes).map Site.offsets) := by
  have ho := ends_readOffsets (mapAll_offset_read h)
  have hs : Node.sites (Node.mapAll (·.offset) nodes) = (Node.sites nodes).map Site.offsets := by
    unfold Node.sites
    rw [Node.partsAll_map, List.filterMap_map, List.map_filterMap]
    congr 1
    funext p
    cases p <;> rfl
  rwa [hs] at ho

end CanvasScript.Script
