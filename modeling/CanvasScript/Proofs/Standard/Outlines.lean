import CanvasScript.Proofs.Canvas.Log
import CanvasScript.Proofs.Standard.Limits

/-!
# Outlines on layers

A layer that names an outline gets a copy of it, as it is when the layer is added. What is created
under the same name later is for later layers.

* `Instruction`, `Instruction.Changes`: a call of a canvas command, carried out on a canvas.
* `Drawn`: a canvas on which instructions have been carried out, one after the other.
* `Latest`, `Lends`: the last outline that instructions have created under a name, and the one that
  an instruction gets for its layer.
* `Snapshots`: the layers and the outlines of a canvas, told by its instructions.

Results:
* `Instruction.Changes.yields`: what one instruction does to the layers and the outlines.
* `Drawn.prefix`: layers stay as they are.
* `Drawn.snapshots`: every layer has the outline that its instruction got when it was added.
* `outlines_are_snapshots`: the same from the making of a canvas on.
-/

namespace CanvasScript.Standard

open Canvas Command Run

/-! ## Instructions -/

/-- A call of a command, with its arguments evaluated but not yet converted. -/
structure Instruction where
  command : Definition Action
  raw : List String

namespace Instruction

/-- The instruction adds a layer. -/
def addsLayer (i : Instruction) : Bool :=
  i.command.action.shape?.isSome

/-- The name of the outline that the instruction asks for. -/
def outlineName? (i : Instruction) : Option String :=
  (i.command.argument? i.raw "Outline Name").map Text.trim

/-- The instruction creates an outline with a name. -/
def Creates (i : Instruction) (name : String) : Prop :=
  i.command.action = .createOutline ∧ (i.command.argument? i.raw "ID").map Text.trim = some name

/-- The instruction is one of a command that adds to canvases, and is carried out on a canvas
without a fault, whatever the world around it. -/
def Changes (i : Instruction) (c c' : Canvas) : Prop :=
  i.command ∈ layers ++ styles ∧ ∃ a run w w', i.command.validate i.raw = .ok a ∧
    (i.command.action.handler : Handler Action) = .canvas run ∧
      (run a).run (c, w) = (.ok (), (c', w'))

end Instruction

/-- A canvas on which instructions have been carried out, in this order, the first canvas being
given. It may be rendered in between. -/
inductive Drawn (c₀ : Canvas) : List Instruction → Canvas → Prop
  | start : Drawn c₀ [] c₀
  | step {is : List Instruction} {c c' : Canvas} {i : Instruction} (h : Drawn c₀ is c)
      (hi : i.Changes c c') : Drawn c₀ (is ++ [i]) c'
  | render {is : List Instruction} {c c' : Canvas} {p : Storage.FilePath} {w w' : World}
      (h : Drawn c₀ is c) (hr : (Edit.render p).run (c, w) = (.ok (), (c', w'))) : Drawn c₀ is c'

/-! ## Outlines -/

/-- The last outline that instructions have created under a name. -/
inductive Latest (is : List Instruction) (name : String) : Option Outline → Prop
  | none (h : ∀ i ∈ is, ¬ i.Creates name) : Latest is name none
  | last {before after : List Instruction} {i : Instruction} {a : Arguments} {o : Outline}
      (hi : is = before ++ i :: after) (hc : i.Creates name) (h : ∀ j ∈ after, ¬ j.Creates name)
      (hv : i.command.validate i.raw = .ok a) (ho : Draws a o) : Latest is name (some o)

/-- The outline that a layer gets behind some instructions: the last one with the name it asks for,
and none if it does not ask for any or adds a text. -/
def Lends (before : List Instruction) (i : Instruction) (o? : Option Outline) : Prop :=
  (∀ name, i.outlineName? = some name → Latest before name o?) ∧
    (i.outlineName? = none ∨ i.command.action = .addText → o? = none)

variable {is : List Instruction} {i : Instruction} {c c' : Canvas} {name : String}
  {o? : Option Outline}

theorem not_creates_of_addsLayer (h : i.addsLayer = true) : ¬ i.Creates name := by
  rintro ⟨ha, -⟩
  rw [Instruction.addsLayer, ha] at h
  cases h

/-- An instruction that creates nothing under a name does not change which one is the last. -/
theorem Latest.keep (h : Latest is name o?) (hi : ¬ i.Creates name) :
    Latest (is ++ [i]) name o? := by
  cases h with
  | none hn =>
    refine .none fun j hj => ?_
    rcases List.mem_append.1 hj with hj | hj
    · exact hn j hj
    · rw [List.mem_singleton.1 hj]
      exact hi
  | @last before after k a o hk hc hn hv ho =>
    have hsplit : is ++ [i] = before ++ k :: (after ++ [i]) := by
      rw [hk, List.append_assoc, List.cons_append]
    refine .last hsplit hc (fun j hj => ?_) hv ho
    rcases List.mem_append.1 hj with hj | hj
    · exact hn j hj
    · rw [List.mem_singleton.1 hj]
      exact hi

/-- What an instruction does to the layers and the outlines of a canvas. -/
inductive Instruction.Yields (i : Instruction) (c c' : Canvas) : Prop
  /-- One layer is put on top, with the outline that is kept under the name it asks for. -/
  | layer {l : Layer} (hi : i.addsLayer = true) (hl : c'.layers = c.layers ++ [l])
      (ho : c'.outlines = c.outlines) (h : l.outline? = i.outlineName?.bind c.outline?)
  /-- One outline is kept under its name. -/
  | outline {a : Arguments} {o : Outline} (hi : i.addsLayer = false) (hl : c'.layers = c.layers)
      (ho : c'.outlines = c.outlines.insert o.id o) (hc : i.Creates o.id)
      (hv : i.command.validate i.raw = .ok a) (hd : Draws a o)
  /-- Neither is touched. -/
  | font (hi : i.addsLayer = false) (hl : c'.layers = c.layers) (ho : c'.outlines = c.outlines)
      (hc : ∀ name, ¬ i.Creates name)

/-- An outline is created under the name that the instruction gives it. -/
theorem creates_of_draws {a : Arguments} {o : Outline} (hd : i.command ∈ additions)
    (hv : i.command.validate i.raw = .ok a) (ha : i.command.action = .createOutline)
    (ho : Draws a o) : i.Creates o.id := by
  have hhands : ∀ d ∈ additions, d.action = .createOutline → d.Hands "ID" false := by
    decide +kernel
  have hid := Definition.string?_eq (sound_additions hd) (hhands _ hd ha) hv
  rw [Arguments.string?_eq_some_iff.2 ho.id] at hid
  exact ⟨ha, hid.symm⟩

theorem Instruction.Changes.yields (h : i.Changes c c') : i.Yields c c' := by
  obtain ⟨hd, a, run, w, w', hv, hhandler, hrun⟩ := h
  obtain ⟨f, hf, hcarries⟩ := exists_change_of_handler hhandler
  have hexact := exact_of_change hd hv hf (hcarries a) hrun
  obtain ⟨ids', hadds, -⟩ := hexact.adds rfl
  cases hadds with
  | layer hplaces => exact .layer hplaces.shape.isSome_shape? rfl rfl hplaces.outline
  | outline ha hdraws =>
    refine .outline ?_ rfl rfl (creates_of_draws hd hv ha hdraws) hv hdraws
    rw [Instruction.addsLayer, ha]
    rfl
  | font ha hloads =>
    refine .font ?_ rfl rfl fun name hc => ?_
    · rw [Instruction.addsLayer, ha]
      rfl
    · cases ha.symm.trans hc.1

/-- An instruction that can be carried out on one canvas can be carried out on any other: it does
not depend on which outlines there are. -/
theorem Instruction.Changes.anywhere (h : i.Changes c c') (c₁ : Canvas) :
    ∃ c₁', i.Changes c₁ c₁' := by
  obtain ⟨hd, a, run, w, w', hv, hhandler, hrun⟩ := h
  obtain ⟨f, hf, hcarries⟩ := exists_change_of_handler hhandler
  have hrange := (exact_of_change hd hv hf (hcarries a) hrun).accepts.1 rfl
  obtain ⟨⟨c₁', ids'⟩, hmade⟩ := exists_change hd hv hf hrange c₁ w.ids
  exact ⟨c₁', hd, a, _, w, { w with ids := ids' }, hv, hhandler, (hcarries a).done hmade⟩

/-- What can be tried out on one canvas can be carried out on any other. -/
theorem exists_changes {f : Arguments → Change} (hd : i.command ∈ additions)
    (hf : i.command.action.change? = some f) {c₁ : Canvas} {ids : IdSupply}
    (h : ((i.command.validate i.raw).toOption.any fun a => (f a c₁ ids).toOption.isSome) = true)
    (c : Canvas) : ∃ c', i.Changes c c' := by
  obtain ⟨a, hv, hmade⟩ := Option.any_eq_true _ _ |>.1 h
  obtain ⟨⟨c₁', ids'⟩, hmade⟩ := Option.isSome_iff_exists.1 hmade
  obtain ⟨run, hhandler, hcarries⟩ := exists_handler_of_change hf
  let w : World := { files := Storage.FileSystem.ofWorking [], ids }
  have hrun : (run a).run (c₁, w) = (.ok (), (c₁', { w with ids := ids' })) :=
    (hcarries a).done (toOption_eq_some_iff.1 hmade)
  have hchanges : i.Changes c₁ c₁' :=
    ⟨hd, a, _, w, _, toOption_eq_some_iff.1 hv, hhandler, hrun⟩
  exact hchanges.anywhere c

/-! ## Runs -/

theorem eq_of_render {p : Storage.FilePath} {w w' : World}
    (h : (Edit.render p).run (c, w) = (.ok (), (c', w'))) : c' = c.markRendered := by
  obtain ⟨files, -, -, ⟨-, hc⟩ | ⟨fault, hfault, -⟩⟩ := Edit.render_cases h
  · exact hc
  · cases hfault

/-- Layers stay as they are, whatever is carried out later. -/
theorem Drawn.prefix {c₀ : Canvas} (h : Drawn c₀ is c) : c₀.layers <+: c.layers := by
  induction h with
  | start => exact List.prefix_refl _
  | step _ hi ih =>
    cases hi.yields with
    | layer _ hl =>
      rw [hl]
      exact ih.trans (List.prefix_append _ _)
    | outline _ hl | font _ hl =>
      rw [hl]
      exact ih
  | render _ hr ih =>
    rw [eq_of_render hr]
    exact ih

/-- The layers and the outlines of a canvas are those of its instructions. -/
structure Snapshots (is : List Instruction) (c : Canvas) : Prop where
  /-- There is one layer for each instruction that adds one. -/
  count : c.layers.length = is.countP Instruction.addsLayer
  /-- Under each name there is the last outline that was created with it. -/
  outlines : ∀ name, Latest is name (c.outline? name)
  /-- Each layer has the outline that its instruction got when it was carried out. -/
  layers : ∀ before i after, is = before ++ i :: after → i.addsLayer = true →
    ∃ l, c.layers[before.countP Instruction.addsLayer]? = some l ∧ Lends before i l.outline?

theorem snapshots_blank (id : String) (width height : Nat) :
    Snapshots [] { id, width, height } where
  count := rfl
  outlines _ := .none nofun
  layers before i after h := by simp at h

theorem outlineName?_of_text (hd : i.command ∈ additions) (ha : i.command.action = .addText) :
    i.outlineName? = none := by
  have hnames : ∀ d ∈ additions, d.action = .addText →
      d.parameters.findIdx? (·.name == "Outline Name") = none := by
    decide +kernel
  rw [Instruction.outlineName?, Definition.argument?, hnames _ hd ha]
  rfl

/-- A layer gets the outline that is kept under the name it asks for. -/
theorem Snapshots.lends (h : Snapshots is c) (hd : i.command ∈ additions) :
    Lends is i (i.outlineName?.bind c.outline?) := by
  refine ⟨fun name hname => ?_, ?_⟩
  · rw [hname, Option.bind_some]
    exact h.outlines name
  · rintro (hnone | htext)
    · rw [hnone]
      rfl
    · rw [outlineName?_of_text hd htext]
      rfl

/-- What is last under each name once an instruction has been carried out. -/
theorem Snapshots.outlines_step (h : Snapshots is c) (hi : i.Yields c c') (name : String) :
    Latest (is ++ [i]) name (c'.outline? name) := by
  unfold Canvas.outline?
  cases hi with
  | layer hadds _ ho =>
    rw [ho]
    exact (h.outlines name).keep (not_creates_of_addsLayer hadds)
  | font _ _ ho hc =>
    rw [ho]
    exact (h.outlines name).keep (hc name)
  | @outline a o _ _ ho hc hv hd =>
    simp only [ho, KeyMap.find?_insert, Std.LawfulEqCmp.compare_eq_iff_eq]
    by_cases hname : name = o.id
    · subst hname
      rw [if_pos rfl]
      exact .last rfl hc (List.forall_mem_nil _) hv hd
    · rw [if_neg hname]
      refine (h.outlines name).keep fun hc' => hname ?_
      exact Option.some.inj (hc'.2.symm.trans hc.2)

theorem Snapshots.step (h : Snapshots is c) (hi : i.Changes c c') : Snapshots (is ++ [i]) c' := by
  have hyields := hi.yields
  have hcount : c'.layers.length = (is ++ [i]).countP Instruction.addsLayer := by
    rw [List.countP_append, List.countP_singleton, ← h.count]
    cases hyields with
    | layer hadds hl => rw [hl, List.length_append, if_pos hadds, List.length_singleton]
    | outline hadds hl | font hadds hl => rw [hl, if_neg (by simp [hadds]), Nat.add_zero]
  refine ⟨hcount, h.outlines_step hyields, fun before k after hsplit hadds => ?_⟩
  rcases List.eq_nil_or_concat after with rfl | ⟨after, j, rfl⟩
  · -- the layer is the one that has just been added
    obtain ⟨rfl, hk⟩ := List.append_inj' hsplit rfl
    cases hk
    cases hyields with
    | @layer l _ hl _ ho =>
      refine ⟨l, ?_, ho ▸ h.lends hi.1⟩
      rw [hl, ← h.count, List.getElem?_concat_length]
    | outline hno | font hno => cases hadds.symm.trans hno
  · -- the layer was there before, and it is where it was
    rw [List.concat_eq_append, ← List.cons_append, ← List.append_assoc] at hsplit
    obtain ⟨hsplit, -⟩ := List.append_inj' hsplit rfl
    obtain ⟨l, hl, hlends⟩ := h.layers before k after hsplit hadds
    refine ⟨l, ?_, hlends⟩
    cases hyields with
    | layer _ hlayers =>
      rw [hlayers, List.getElem?_append_left (List.getElem?_eq_some_iff.1 hl).1, hl]
    | outline _ hlayers | font _ hlayers => rw [hlayers, hl]

theorem Snapshots.render (h : Snapshots is c) : Snapshots is c.markRendered :=
  ⟨h.count, h.outlines, h.layers⟩

/-- Every layer has the outline that its instruction got when it was added. -/
theorem Drawn.snapshots {id : String} {width height : Nat}
    (h : Drawn { id, width, height } is c) : Snapshots is c := by
  induction h with
  | start => exact snapshots_blank id width height
  | step _ hi ih => exact ih.step hi
  | render _ hr ih =>
    rw [eq_of_render hr]
    exact ih.render

/-- **Outlines on layers are snapshots**: on a new canvas, every layer that instructions add has
the last outline that was created, when it was added, under the name it asks for; nothing that is
carried out later changes a layer that is there; and whether an instruction can be carried out does
not depend on the outlines that there are. -/
theorem outlines_are_snapshots {width height : Nat} {ids ids' : IdSupply} {c₀ : Canvas}
    (hc : Canvas.make width height ids = .ok (c₀, ids')) (h : Drawn c₀ is c) :
    Snapshots is c ∧ (∀ later c', Drawn c later c' → c.layers <+: c'.layers) ∧
      ∀ i c₁ c₁' c₂, Instruction.Changes i c₁ c₁' → ∃ c₂', Instruction.Changes i c₂ c₂' := by
  obtain ⟨id, rfl⟩ := exists_id_of_make hc
  exact ⟨h.snapshots, fun later c' hlater => hlater.prefix,
    fun i c₁ c₁' c₂ hi => hi.anywhere c₂⟩

/-- An outline is replaced between two layers that name it. -/
theorem outlines_are_snapshots_replaced :
    let ids : IdSupply := { stamp := fun _ => 0, digit := fun _ _ => 0 }
    let edge : Instruction := ⟨styles[0], [" edge", "center"]⟩
    let wide : Instruction := ⟨styles[0], ["edge", "outer", "#000", "50", "7"]⟩
    let image : String → Instruction := fun name =>
      ⟨layers[3], ["0", "0", "4", "4", "0", "a.png", "", name]⟩
    ∃ c₀ ids' c, Canvas.make 10 10 ids = .ok (c₀, ids') ∧
      Drawn c₀ [edge, image "edge", wide, image " edge "] c ∧
        Snapshots [edge, image "edge", wide, image " edge "] c := by
  intro ids edge wide image
  have hstyle : styles[0] ∈ layers ++ styles := List.mem_append_right _ (List.getElem_mem _)
  have hlayer : layers[3] ∈ layers ++ styles := List.mem_append_left _ (List.getElem_mem _)
  obtain ⟨c₀, ids', hmake⟩ : ∃ c₀ ids', Canvas.make 10 10 ids = .ok (c₀, ids') := ⟨_, _, rfl⟩
  let blank : Canvas := { id := "", width := 1, height := 1 }
  obtain ⟨c₁, h₁⟩ : ∃ c₁, edge.Changes c₀ c₁ :=
    @exists_changes edge _ hstyle rfl blank ids (by decide +kernel) c₀
  obtain ⟨c₂, h₂⟩ : ∃ c₂, (image "edge").Changes c₁ c₂ :=
    @exists_changes (image "edge") _ hlayer rfl blank ids (by decide +kernel) c₁
  obtain ⟨c₃, h₃⟩ : ∃ c₃, wide.Changes c₂ c₃ :=
    @exists_changes wide _ hstyle rfl blank ids (by decide +kernel) c₂
  obtain ⟨c₄, h₄⟩ : ∃ c₄, (image " edge ").Changes c₃ c₄ :=
    @exists_changes (image " edge ") _ hlayer rfl blank ids (by decide +kernel) c₃
  have hd : Drawn c₀ _ c₄ := (((Drawn.start.step h₁).step h₂).step h₃).step h₄
  exact ⟨c₀, ids', c₄, hmake, hd, (outlines_are_snapshots hmake hd).1⟩

end CanvasScript.Standard
