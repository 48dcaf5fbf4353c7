import CanvasScript.Proofs.Standard.Journal

/-!
# Every call is carried out once

What the journal of an evaluation says about the calls of the script and about the canvases.

* `Chained`: the worlds of the entries follow each other, so that nothing but the own steps of the
  calls changes the world.
* `Entry.Lawful`: the command of an entry is the standard one that its call names, and its step
  does what its action says.
* `Task.sites`: the calls with brackets that a task comes to, in the order in which they end.
* `Entry.added`: the layers that an entry adds to a canvas.

Results:
* `Runs.perm_sites`: the journal lists each call once.
* `Runs.reaches`: a layer is added to the canvas of the context, or to a canvas opened meanwhile.
* `Runs.ordered`: the calls that add layers to one canvas are carried out in the order in which
  they end, although not all calls are.
* `evaluateScript_calls`: what this means for the canvases of a script.
-/

namespace CanvasScript.Standard

open Canvas Command Run Script Settings

/-! ## The worlds of a journal -/

/-- The first entry begins in the first world, each other one where the one before it ends, and the
last one ends in the last world. -/
def Chained : World → List Entry → World → Prop
  | w, [], w' => w = w'
  | w, j :: js, w' => j.before = w ∧ Chained j.after js w'

theorem Chained.append {w w₁ w' : World} {js js' : List Entry} (h : Chained w js w₁)
    (h' : Chained w₁ js' w') : Chained w (js ++ js') w' := by
  induction js generalizing w with
  | nil =>
    cases h
    exact h'
  | cons j js ih => exact ⟨h.1, ih h.2⟩

theorem Runs.chained {c : Context Action} {t : Task} {w w' : World} {js : List Entry}
    (h : Runs c t w js w') : Chained w js w' := by
  induction h with
  | text | mention | nil | done => exact rfl
  | call hd hargs hv hp ih => exact ih.append ⟨rfl, rfl⟩
  | createCanvas hd ha hargs hv ho hcode ih ih' => exact ih.append ⟨rfl, ih'⟩
  | cons hn hns ih ih' => exact ih.append ih'
  | script hs has ih => exact ih
  | resolved hs ha has ih ih' => exact ih.append ih'

/-- A number that every step raises by what its action says is raised by all of them together. -/
theorem Chained.sum {f : World → Nat} {g : Action → Nat} {w w' : World} {js : List Entry}
    (h : Chained w js w') (hf : ∀ j ∈ js, f j.after = f j.before + g j.command.action) :
    f w' = f w + (js.map fun j => g j.command.action).sum := by
  induction js generalizing w with
  | nil =>
    cases h
    rfl
  | cons j js ih =>
    obtain ⟨hfirst, hrest⟩ := List.forall_mem_cons.1 hf
    obtain ⟨rfl, htail⟩ := h
    rw [ih htail hrest, hfirst, List.map_cons, List.sum_cons, Nat.add_assoc]

/-! ## Lawful entries -/

namespace Entry

/-- The command is the standard one that the call names, and its step does what its action says. -/
structure Lawful (j : Entry) : Prop where
  standard : j.command ∈ definitions
  key : j.command.key = Definition.keyOf j.site.name
  changes : ∃ canvas?, Changes j.command.action canvas? j.before j.after

/-- The layers that the call adds to a canvas. -/
def added (j : Entry) (k : Nat) : List Layer :=
  (layersOn j.after k).drop (layersOn j.before k).length

/-- The call adds layers to a canvas. -/
def adds (j : Entry) (k : Nat) : Bool :=
  !(j.added k).isEmpty

theorem added_of_append {j : Entry} {k : Nat} {new : List Layer}
    (h : layersOn j.after k = layersOn j.before k ++ new) : j.added k = new := by
  rw [added, h, List.drop_left]

/-- The layers are added to the canvas of the context. -/
theorem canvas?_of_adds {j : Entry} {canvas? : Option Nat}
    (h : Changes j.command.action canvas? j.before j.after) {k : Nat} (hk : j.adds k = true) :
    canvas? = some k ∧ j.command.action.layers = 1 := by
  obtain ⟨new, hnew, -, hcanvas⟩ := h.layers_eq k
  refine hcanvas ?_
  rintro rfl
  rw [adds, added_of_append hnew] at hk
  cases hk

theorem Lawful.layers_eq {j : Entry} (h : j.Lawful) (k : Nat) :
    layersOn j.after k = layersOn j.before k ++ j.added k ∧ (j.added k).length ≤ 1 := by
  obtain ⟨canvas?, hchanges⟩ := h.changes
  obtain ⟨new, hnew, hlen, -⟩ := hchanges.layers_eq k
  rw [added_of_append hnew]
  exact ⟨hnew, hlen⟩

end Entry

theorem Runs.lawful {c : Context Action} {t : Task} {w w' : World} {js : List Entry}
    (h : Runs c t w js w') (hc : IsStandard c) : ∀ j ∈ js, j.Lawful := by
  induction h with
  | text | mention | nil | done =>
    intro j hj
    cases hj
  | call hd hargs hv hp ih =>
    obtain ⟨hmem, hkey⟩ := of_lookup? hc hd
    refine List.forall_mem_append.2 ⟨ih hc, List.forall_mem_singleton.2 ?_⟩
    exact ⟨hmem, hkey, _, changes_of_performs hp⟩
  | createCanvas hd ha hargs hv ho hcode ih ih' =>
    obtain ⟨hmem, hkey⟩ := of_lookup? hc hd
    have hinner := isStandard_opening hc ha ho
    refine List.forall_mem_append.2 ⟨ih hc, List.forall_mem_cons.2 ⟨?_, ih' hinner⟩⟩
    exact ⟨hmem, hkey, _, (changes_of_opening ha ho).2⟩
  | cons hn hns ih ih' => exact List.forall_mem_append.2 ⟨ih hc, ih' hc⟩
  | script hs has ih => exact ih hc
  | resolved hs ha has ih ih' => exact List.forall_mem_append.2 ⟨ih hc, ih' hc⟩

/-! ## The calls of a task -/

/-- The calls with brackets in arguments. -/
def sitesOf (as : List (Argument Location)) : List (Site Location) :=
  as.flatMap fun a => Node.sites a.nodes

/-- The calls with brackets in the arguments from an index on, without those that are taken as
scripts. -/
def resolvedSites (d : Definition Action) : Nat → List (Argument Location) → List (Site Location)
  | _, [] => []
  | index, a :: as =>
    (if takesScript d index then [] else Node.sites a.nodes) ++ resolvedSites d (index + 1) as

/-- The calls with brackets that a task comes to, in the order in which they end. -/
def Task.sites : Task → List (Site Location)
  | node n => n.parts.filterMap Part.site?
  | nodes ns => Node.sites ns
  | arguments d index as => resolvedSites d index as

theorem sites_cons (n : Node Location) (ns : List (Node Location)) :
    Node.sites (n :: ns) = n.parts.filterMap Part.site? ++ Node.sites ns :=
  List.filterMap_append

/-- A call ends after those in its arguments. -/
theorem sites_call (name : String) (as : List (Argument Location)) (span : Span Location) :
    Task.sites (.node (.call name as span)) = sitesOf as ++ [⟨name, span⟩] := by
  rw [Task.sites, Node.parts, List.filterMap_append, filterMap_partsAll fun _ => rfl]
  rfl

theorem resolvedSites_of_not_script {d : Definition Action}
    (h : ∀ index, takesScript d index = false) (index : Nat) (as : List (Argument Location)) :
    resolvedSites d index as = sitesOf as := by
  induction as generalizing index with
  | nil => rfl
  | cons a as ih =>
    rw [resolvedSites, h index, if_neg Bool.false_ne_true, ih]
    rfl

theorem resolvedSites_sublist (d : Definition Action) (index : Nat)
    (as : List (Argument Location)) : (resolvedSites d index as).Sublist (sitesOf as) := by
  induction as generalizing index with
  | nil => exact .refl _
  | cons a as ih =>
    rw [resolvedSites]
    refine List.Sublist.append ?_ (ih (index + 1))
    split
    · exact List.nil_sublist _
    · exact .refl _

theorem sites_sublist_of_mem {a : Argument Location} {as : List (Argument Location)}
    (h : a ∈ as) : (Node.sites a.nodes).Sublist (sitesOf as) := by
  obtain ⟨before, after, rfl⟩ := List.append_of_mem h
  rw [sitesOf, List.flatMap_append, List.flatMap_cons]
  exact (List.sublist_append_left _ _).trans (List.sublist_append_right _ _)

theorem codeOf_sublist (d : Definition Action) (as : List (Argument Location)) :
    (Node.sites (codeOf d as)).Sublist (sitesOf as) := by
  unfold codeOf
  cases h : codeArgument? d as with
  | none => exact List.nil_sublist _
  | some a => exact sites_sublist_of_mem (mem_of_codeArgument? h)

theorem takesScript_eq {d : Definition Action} (hd : d ∈ definitions)
    (ha : d.action = .createCanvas) (index : Nat) : takesScript d index = decide (index = 2) := by
  rw [Bool.eq_iff_iff, takesScript_iff hd, decide_eq_true_eq]
  exact and_iff_right ha

theorem codeArgument?_eq {d : Definition Action} (hd : d ∈ definitions)
    (ha : d.action = .createCanvas) (as : List (Argument Location)) :
    codeArgument? d as = as[2]? := by
  rw [codeArgument?, (findIdx?_code d hd ha).2]
  rfl

theorem resolvedSites_behind_code {d : Definition Action} (hd : d ∈ definitions)
    (ha : d.action = .createCanvas) {index : Nat} (h : 2 < index)
    (as : List (Argument Location)) : resolvedSites d index as = sitesOf as := by
  induction as generalizing index with
  | nil => rfl
  | cons a as ih =>
    rw [resolvedSites, takesScript_eq hd ha, if_neg (by simp; omega), ih (by omega)]
    rfl

/-- The third argument is left out, those behind it are not. -/
theorem resolvedSites_around_code {d : Definition Action} (hd : d ∈ definitions)
    (ha : d.action = .createCanvas) (a b code : Argument Location)
    (as : List (Argument Location)) :
    resolvedSites d 0 (a :: b :: code :: as) =
      Node.sites a.nodes ++ (Node.sites b.nodes ++ sitesOf as) := by
  simp [resolvedSites, takesScript_eq hd ha, resolvedSites_behind_code hd ha]

/-- The code of a canvas is what is left out when the arguments are evaluated. -/
theorem perm_code {d : Definition Action} (hd : d ∈ definitions) (ha : d.action = .createCanvas)
    (as : List (Argument Location)) :
    (resolvedSites d 0 as ++ Node.sites (codeOf d as)).Perm (sitesOf as) := by
  rw [codeOf, codeArgument?_eq hd ha]
  obtain _ | ⟨a, _ | ⟨b, _ | ⟨code, as⟩⟩⟩ := as
  · exact .refl _
  · simp [resolvedSites, takesScript_eq hd ha, sitesOf, Node.sites, Node.partsAll]
  · simp [resolvedSites, takesScript_eq hd ha, sitesOf, Node.sites, Node.partsAll]
  · rw [resolvedSites_around_code hd ha, List.append_assoc, List.append_assoc]
    exact .append_left _ (.append_left _ List.perm_append_comm)

/-- No other command leaves out an argument. -/
theorem resolvedSites_eq {d : Definition Action} (hd : d ∈ definitions)
    (ha : d.action ≠ .createCanvas) (as : List (Argument Location)) :
    resolvedSites d 0 as = sitesOf as := by
  refine resolvedSites_of_not_script (fun index => ?_) 0 as
  rw [← Bool.not_eq_true, takesScript_iff hd]
  rintro ⟨h, -⟩
  exact ha h

/-! ## Each call once -/

/-- The journal lists each call once. -/
theorem Runs.perm_sites {c : Context Action} {t : Task} {w w' : World} {js : List Entry}
    (h : Runs c t w js w') (hc : IsStandard c) : (js.map (·.site)).Perm t.sites := by
  induction h with
  | text | mention | nil | done => exact .refl _
  | call hd hargs hv hp ih =>
    rw [sites_call, List.map_append,
      ← resolvedSites_eq (of_lookup? hc hd).1 (ne_createCanvas_of_performs hp)]
    exact (ih hc).append_right _
  | @createCanvas c inner w w₁ w₂ w₃ name as span d a js js' hd ha hargs hv ho hcode ih ih' =>
    rw [sites_call, List.map_append, List.map_cons]
    have hargsPerm : (js.map (·.site)).Perm (resolvedSites d 0 as) := ih hc
    have hcodePerm : (js'.map (·.site)).Perm (Node.sites (codeOf d as)) :=
      ih' (isStandard_opening hc ha ho)
    calc js.map (·.site) ++ ⟨name, span⟩ :: js'.map (·.site)
      _ |>.Perm (js.map (·.site) ++ (js'.map (·.site) ++ [⟨name, span⟩])) :=
        .append_left _ (List.perm_append_singleton _ _).symm
      _ |>.Perm (resolvedSites d 0 as ++ Node.sites (codeOf d as) ++ [⟨name, span⟩]) := by
        rw [List.append_assoc]
        exact hargsPerm.append (hcodePerm.append_right _)
      _ |>.Perm (sitesOf as ++ [⟨name, span⟩]) :=
        (perm_code (of_lookup? hc hd).1 ha as).append_right _
  | cons hn hns ih ih' =>
    rw [Task.sites, sites_cons, List.map_append]
    exact (ih hc).append (ih' hc)
  | script hs has ih =>
    rw [Task.sites, resolvedSites, if_pos hs]
    exact ih hc
  | resolved hs ha has ih ih' =>
    rw [Task.sites, resolvedSites, if_neg (by simp [hs]), List.map_append]
    exact (ih hc).append (ih' hc)

/-! ## The canvases that layers are added to -/

theorem Runs.length_slots_le {c : Context Action} {t : Task} {w w' : World} {js : List Entry}
    (h : Runs c t w js w') (hc : IsStandard c) : w.slots.length ≤ w'.slots.length := by
  have hsum := h.chained.sum (f := fun w => w.slots.length) (g := Action.canvases) fun j hj => by
    obtain ⟨canvas?, hchanges⟩ := (h.lawful hc j hj).changes
    exact hchanges.length_slots
  omega

/-- The code of a canvas works on a canvas that was not there before. -/
theorem of_opening {c inner : Context Action} {d : Definition Action} {a : Arguments}
    {w w' : World} (ha : d.action = .createCanvas)
    (ho : (opening c d a).run w = (.ok inner, w')) :
    inner.canvas? = some w.slots.length ∧ w'.slots.length = w.slots.length + 1 := by
  obtain ⟨rfl, hchanges⟩ := changes_of_opening ha ho
  have hlen := hchanges.length_slots
  rw [ha] at hlen
  exact ⟨rfl, hlen⟩

/-- Opening a canvas adds no layer. -/
theorem adds_opening {c inner : Context Action} {d : Definition Action} {a : Arguments}
    {w w' : World} (site : Site Location) (ha : d.action = .createCanvas)
    (ho : (opening c d a).run w = (.ok inner, w')) (k : Nat) :
    Entry.adds ⟨site, d, w, w'⟩ k = false := by
  rw [← Bool.not_eq_true]
  intro hk
  have hlayers := (Entry.canvas?_of_adds (j := ⟨site, d, w, w'⟩) (changes_of_opening ha ho).2 hk).2
  dsimp only at hlayers
  rw [ha] at hlayers
  cases hlayers

/-- Layers are added only to the canvas of the context and to canvases opened meanwhile. -/
def Reaches (c : Context Action) (w w' : World) (js : List Entry) : Prop :=
  ∀ j ∈ js, ∀ k, j.adds k = true →
    c.canvas? = some k ∨ w.slots.length ≤ k ∧ k < w'.slots.length

theorem Reaches.append {c : Context Action} {w w₁ w' : World} {js js' : List Entry}
    (h : Reaches c w w₁ js) (h' : Reaches c w₁ w' js') (hle : w.slots.length ≤ w₁.slots.length)
    (hle' : w₁.slots.length ≤ w'.slots.length) : Reaches c w w' (js ++ js') := by
  intro j hj k hk
  rcases List.mem_append.1 hj with hj | hj
  · rcases h j hj k hk with h | h
    · exact .inl h
    · exact .inr ⟨h.1, by omega⟩
  · rcases h' j hj k hk with h | h
    · exact .inl h
    · exact .inr ⟨by omega, h.2⟩

theorem Runs.reaches {c : Context Action} {t : Task} {w w' : World} {js : List Entry}
    (h : Runs c t w js w') (hc : IsStandard c) : Reaches c w w' js := by
  induction h with
  | text | mention | nil | done =>
    intro j hj
    cases hj
  | call hd hargs hv hp ih =>
    have hchanges := changes_of_performs hp
    refine (ih hc).append ?_ (hargs.length_slots_le hc)
      (hchanges.length_slots ▸ Nat.le_add_right ..)
    intro j hj k hk
    cases List.mem_singleton.1 hj
    exact .inl (Entry.canvas?_of_adds hchanges hk).1
  | createCanvas hd ha hargs hv ho hcode ih ih' =>
    have hinner := isStandard_opening hc ha ho
    obtain ⟨hcanvas, hlen⟩ := of_opening ha ho
    have hle := hcode.length_slots_le hinner
    refine (ih hc).append ?_ (hargs.length_slots_le hc) (by omega)
    intro j hj k hk
    rcases List.mem_cons.1 hj with rfl | hj
    · rw [adds_opening _ ha ho] at hk
      cases hk
    · rcases ih' hinner j hj k hk with h | h
      · cases hcanvas.symm.trans h
        exact .inr ⟨Nat.le_refl _, by omega⟩
      · exact .inr ⟨by omega, h.2⟩
  | cons hn hns ih ih' =>
    exact (ih hc).append (ih' hc) (hn.length_slots_le hc) (hns.length_slots_le hc)
  | script hs has ih => exact ih hc
  | resolved hs ha has ih ih' =>
    exact (ih hc).append (ih' hc) (ha.length_slots_le hc) (has.length_slots_le hc)

/-! ## The order of layers -/

/-- The canvas of the context is there. -/
def Present (c : Context Action) (w : World) : Prop :=
  ∀ k, c.canvas? = some k → k < w.slots.length

theorem Present.later {c : Context Action} {w w' : World} (h : Present c w)
    (hle : w.slots.length ≤ w'.slots.length) : Present c w' :=
  fun k hk => Nat.lt_of_lt_of_le (h k hk) hle

/-- The calls that add layers to a canvas. -/
def adders (js : List Entry) (k : Nat) : List Entry :=
  js.filter (·.adds k)

theorem adders_append (js js' : List Entry) (k : Nat) :
    adders (js ++ js') k = adders js k ++ adders js' k :=
  List.filter_append ..

theorem adders_eq_nil {js : List Entry} {k : Nat} (h : ∀ j ∈ js, j.adds k ≠ true) :
    adders js k = [] :=
  List.filter_eq_nil_iff.2 h

/-- The calls that add layers to one canvas are carried out in the order in which they end. The
code of a canvas, which is run behind arguments that end later, does not work on the same canvas as
they do. -/
theorem Runs.ordered {c : Context Action} {t : Task} {w w' : World} {js : List Entry}
    (h : Runs c t w js w') (hc : IsStandard c) (hp : Present c w) (k : Nat) :
    ((adders js k).map (·.site)).Sublist t.sites := by
  induction h with
  | text | mention | nil | done => exact List.nil_sublist _
  | call hd hargs hv hperforms ih =>
    rw [sites_call, adders_append, List.map_append,
      ← resolvedSites_eq (of_lookup? hc hd).1 (ne_createCanvas_of_performs hperforms)]
    exact (ih hc hp).append (List.filter_sublist.map _)
  | @createCanvas c inner w w₁ w₂ w₃ name as span d a js js' hd ha hargs hv ho hcode ih ih' =>
    have hinner := isStandard_opening hc ha ho
    obtain ⟨hcanvas, hlen⟩ := of_opening ha ho
    have hle := hargs.length_slots_le hc
    have hpresent : Present inner w₂ := by
      intro m hm
      cases hcanvas.symm.trans hm
      omega
    have hopen : adders (⟨⟨name, span⟩, d, w₁, w₂⟩ :: js') k = adders js' k :=
      List.filter_cons_of_neg (by rw [adds_opening _ ha ho]; exact Bool.false_ne_true)
    rw [sites_call, adders_append, hopen, List.map_append]
    refine List.Sublist.trans ?_ (List.sublist_append_left _ _)
    -- Either the canvas was there before, and the code does not reach it, or only the code does.
    by_cases hk : k < w₁.slots.length
    · have hnone : adders js' k = [] := adders_eq_nil fun j hj hadds => by
        rcases hcode.reaches hinner j hj k hadds with h | h
        · cases hcanvas.symm.trans h
          omega
        · omega
      rw [hnone, List.map_nil, List.append_nil]
      exact (ih hc hp).trans (resolvedSites_sublist d 0 as)
    · have hnone : adders js k = [] := adders_eq_nil fun j hj hadds => by
        rcases hargs.reaches hc j hj k hadds with h | h
        · have := hp k h
          omega
        · omega
      rw [hnone, List.map_nil, List.nil_append]
      exact (ih' hinner hpresent).trans (codeOf_sublist d as)
  | cons hn hns ih ih' =>
    rw [Task.sites, sites_cons, adders_append, List.map_append]
    exact (ih hc hp).append (ih' hc (hp.later (hn.length_slots_le hc)))
  | script hs has ih =>
    rw [Task.sites, resolvedSites, if_pos hs]
    exact ih hc hp
  | resolved hs ha has ih ih' =>
    rw [Task.sites, resolvedSites, if_neg (by simp [hs]), adders_append, List.map_append]
    exact (ih hc hp).append (ih' hc (hp.later (ha.length_slots_le hc)))

/-- The layers of a canvas are those that it had, and those that the calls add to it, each call
one. -/
theorem Chained.layers_eq {w w' : World} {js : List Entry} (h : Chained w js w')
    (hl : ∀ j ∈ js, j.Lawful) (k : Nat) :
    (layersOn w' k).map (fun l => [l]) =
      (layersOn w k).map (fun l => [l]) ++ (adders js k).map (·.added k) := by
  induction js generalizing w with
  | nil =>
    cases h
    exact (List.append_nil _).symm
  | cons j js ih =>
    obtain ⟨hfirst, hrest⟩ := List.forall_mem_cons.1 hl
    obtain ⟨rfl, htail⟩ := h
    obtain ⟨hnew, hlen⟩ := hfirst.layers_eq k
    rw [ih htail hrest, hnew, List.map_append, List.append_assoc]
    congr 1
    match hadded : j.added k with
    | [] =>
      have hnone : adders (j :: js) k = adders js k :=
        List.filter_cons_of_neg (by simp [Entry.adds, hadded])
      rw [hnone]
      rfl
    | [l] =>
      have hsome : adders (j :: js) k = j :: adders js k :=
        List.filter_cons_of_pos (by simp [Entry.adds, hadded])
      rw [hsome]
      simp [hadded]
    | l :: l' :: ls =>
      rw [hadded] at hlen
      simp at hlen

/-! ## What the calls are named -/

/-- The call names one of the commands, up to the case of letters. -/
def isCallOf {π : Type} (names : List String) (s : Site π) : Bool :=
  names.any fun name => Definition.keyOf name == Definition.keyOf s.name

/-- The commands that add a layer. -/
def layerCommands : List String :=
  ["$addArcLayer", "$addCircleLayer", "$addEllipseLayer", "$addEllipseImageLayer",
    "$addTextLayer"]

theorem canvases_eq : ∀ d ∈ definitions, d.action.canvases =
    if [canvasScope].any (fun name => Definition.keyOf name == d.key) then 1 else 0 := by
  decide +kernel

theorem layers_eq : ∀ d ∈ definitions, d.action.layers =
    if layerCommands.any (fun name => Definition.keyOf name == d.key) then 1 else 0 := by
  decide +kernel

theorem renders_eq : ∀ d ∈ definitions, d.action.renders =
    if ["$renderCanvas"].any (fun name => Definition.keyOf name == d.key) then 1 else 0 := by
  decide +kernel

/-- What the own steps add up to is the number of calls with certain names. -/
theorem sum_eq_countP {g : Action → Nat} {names : List String} {js : List Entry}
    {sites : List (Site Location)}
    (hg : ∀ d ∈ definitions, g d.action =
      if names.any (fun name => Definition.keyOf name == d.key) then 1 else 0)
    (hl : ∀ j ∈ js, j.Lawful) (hs : (js.map (·.site)).Perm sites) :
    (js.map fun j => g j.command.action).sum = sites.countP (isCallOf names) := by
  rw [← hs.countP_eq, List.countP_map]
  clear hs
  induction js with
  | nil => rfl
  | cons j js ih =>
    obtain ⟨hfirst, hrest⟩ := List.forall_mem_cons.1 hl
    rw [List.map_cons, List.sum_cons, List.countP_cons, ih hrest, hg j.command hfirst.standard,
      hfirst.key, Nat.add_comm]
    rfl

/-! ## Whole scripts -/

/-- What a journal and the canvases that are there at the end owe to the calls of a script. -/
structure Accounts (nodes : List (Node Location)) (js : List Entry) (canvases : List Canvas) :
    Prop where
  /-- Every call with brackets was carried out once. -/
  once : (js.map (·.site)).Perm (Node.sites nodes)
  opened : canvases.length = (Node.sites nodes).countP (isCallOf ["$createCanvas"])
  layered : (canvases.map (·.layers.length)).sum =
    (Node.sites nodes).countP (isCallOf layerCommands)
  rendered : (canvases.map (·.renders)).sum =
    (Node.sites nodes).countP (isCallOf ["$renderCanvas"])
  /-- Each layer was added by a call of its own, and these calls end one after the other. -/
  ordered : ∀ (k : Nat) (c : Canvas), canvases[k]? = some c →
    (adders js k).map (·.added k) = c.layers.map (fun l => [l]) ∧
      EndInOrder ((adders js k).map (·.site.offsets))

/-- **Every call with brackets is carried out once**, if the script can be evaluated: there are as
many canvases, layers and renders as there are calls for them, at any depth, and the layers of a
canvas stand in the order in which the calls that added them end. -/
theorem evaluateScript_calls {config : Config} {r : Registry Action}
    (hr : registry config = .ok r) {source : String} {files : Storage.FileSystem}
    {ids : IdSupply} {e : Evaluation} {w' : World}
    (h : (evaluateScript r config source).run { files, ids } = (.ok e, w')) :
    ∃ nodes js, Script.read source = .ok nodes ∧
      Runs (Context.root r config) (.nodes nodes) { files, ids } js w' ∧
      Accounts nodes js e.canvases := by
  obtain ⟨nodes, js, hread, hruns, hcanvases⟩ := runs_evaluateScript hr h
  have hc := isStandard_root hr
  have hlawful := hruns.lawful hc
  have hperm : (js.map (·.site)).Perm (Node.sites nodes) := hruns.perm_sites hc
  have hchanges : ∀ j ∈ js, ∃ canvas?, Changes j.command.action canvas? j.before j.after :=
    fun j hj => (hlawful j hj).changes
  refine ⟨nodes, js, hread, hruns, hperm, ?_, ?_, ?_, fun k c hk => ⟨?_, ?_⟩⟩
  · have hsum := hruns.chained.sum (f := fun w => w.slots.length) (g := Action.canvases)
      fun j hj => (hchanges j hj).elim fun _ h => h.length_slots
    rw [hcanvases, World.canvases, List.length_map, hsum, sum_eq_countP canvases_eq hlawful hperm]
    exact Nat.zero_add _
  · have hsum := hruns.chained.sum (f := layerCount) (g := Action.layers)
      fun j hj => (hchanges j hj).elim fun _ h => h.layerCount
    rw [layerCount, ← hcanvases, sum_eq_countP layers_eq hlawful hperm] at hsum
    exact hsum.trans (Nat.zero_add _)
  · have hsum := hruns.chained.sum (f := renderCount) (g := Action.renders)
      fun j hj => (hchanges j hj).elim fun _ h => h.renderCount
    rw [renderCount, ← hcanvases, sum_eq_countP renders_eq hlawful hperm] at hsum
    exact hsum.trans (Nat.zero_add _)
  · have hlayers := hruns.chained.layers_eq hlawful k
    have hc' : layersOn w' k = c.layers := by
      rw [hcanvases, World.canvases, List.getElem?_map] at hk
      obtain ⟨s, hs, rfl⟩ := Option.map_eq_some_iff.1 hk
      rw [layersOn, hs]
      rfl
    rw [hc'] at hlayers
    exact hlayers.symm
  · have hsublist := (hruns.ordered hc nofun k).map Site.offsets
    have hordered := (sites_read hread).sublist hsublist
    rwa [List.map_map] at hordered

/-- The surplus argument of the inner call adds a layer to the outer canvas, before the code of the
inner canvas is run. -/
theorem evaluateScript_calls_surplus :
    let source :=
      "$createCanvas[1;1;$createCanvas[1;1;$setVar[a;b];$addEllipseImageLayer[0;0;0;0;0;c]]]"
    let files := Storage.FileSystem.ofWorking []
    let ids : IdSupply := { stamp := fun _ => 0, digit := fun _ _ => 0 }
    ∃ r e w', registry {} = .ok r ∧
      (evaluateScript r {} source).run { files, ids } = (.ok e, w') ∧
      e.canvases.map (·.layers.length) = [1, 0] ∧
      ∃ nodes js, Script.read source = .ok nodes ∧
        Runs (Context.root r {}) (.nodes nodes) { files, ids } js w' ∧
        Accounts nodes js e.canvases := by
  intro source files ids
  have hr := registry_default
  have hrun : ((evaluateScript (Registry.empty.load definitions).1 {} source).run
      { files, ids }).1.toOption.map (·.canvases.map (·.layers.length)) = some [1, 0] := by
    decide +kernel
  obtain ⟨e, he, hlen⟩ := Option.map_eq_some_iff.1 hrun
  generalize h : (evaluateScript (Registry.empty.load definitions).1 {} source).run
    { files, ids } = result at he
  obtain ⟨r, w'⟩ := result
  cases r with
  | error fault => cases he
  | ok e' =>
    cases he
    exact ⟨_, e, w', hr, h, hlen, evaluateScript_calls hr h⟩

end CanvasScript.Standard
