import CanvasScript.Proofs.Standard.Calls

/-!
# What evaluations keep

An evaluation may open canvases within canvases, and it may fail at any place. Whatever it does, it
reaches no canvas but that of its context and those that it opens itself.

* `SameFrame`: a canvas is another one with the same identifier and the same size.
* `Keeps`: the canvases of a world are there in a later one, and nothing but the canvas of the
  context has been changed. Even that is still the same one.
* `Fit`: a context belongs into a world. Its canvas is there, and commands that need a canvas can
  be seen only if there is one.

Results:
* `keeps_of_effect`, `Ends.keeps`: what an own step keeps, and so does every evaluation, whether it
  completes or fails.
* `Keeps.surrounds`: what is run on the last canvas leaves those before it as they are.
* `Fit.scoped`: a command that needs a canvas has one, and it is not being edited.
* `Ends.fit`, `Arrives.fit`: contexts belong into the worlds that they are evaluated in.
-/

namespace CanvasScript.Standard

open Canvas Command Run Script Settings

/-! ## One canvas -/

/-- The canvases have the same identifier and the same size. -/
structure SameFrame (c c' : Canvas) : Prop where
  id : c'.id = c.id
  width : c'.width = c.width
  height : c'.height = c.height

theorem SameFrame.refl (c : Canvas) : SameFrame c c :=
  ⟨rfl, rfl, rfl⟩

theorem SameFrame.trans {c₁ c₂ c₃ : Canvas} (h : SameFrame c₁ c₂) (h' : SameFrame c₂ c₃) :
    SameFrame c₁ c₃ :=
  ⟨h'.id.trans h.id, h'.width.trans h.width, h'.height.trans h.height⟩

theorem SameFrame.touch {c c' : Canvas} (h : SameFrame c c') : SameFrame c c'.touch := by
  rw [touch_eq]
  exact ⟨h.id, h.width, h.height⟩

theorem sameFrame_markRendered (c : Canvas) : SameFrame c c.markRendered :=
  ⟨rfl, rfl, rfl⟩

theorem sameFrame_layerChange {shape : Arguments → Except Fault Shape} {a : Arguments}
    {c c' : Canvas} {ids ids' : IdSupply} (h : layerChange shape a c ids = .ok (c', ids')) :
    SameFrame c c' := by
  obtain ⟨s, -, h⟩ := of_bind_ok h
  obtain ⟨x, -, h⟩ := of_bind_ok h
  obtain ⟨y, -, h⟩ := of_bind_ok h
  obtain ⟨⟨l, ids₁⟩, -, h⟩ := of_bind_ok h
  cases h
  exact SameFrame.touch ⟨rfl, rfl, rfl⟩

/-- No change gives a canvas another size. -/
theorem sameFrame_of_change {action : Action} {f : Arguments → Change}
    (hf : action.change? = some f) {a : Arguments} {c c' : Canvas} {ids ids' : IdSupply}
    (h : f a c ids = .ok (c', ids')) : SameFrame c c' := by
  cases action with
  | setVariable | getVariable | createCanvas | renderCanvas => cases hf
  | addArc | addCircle | addEllipse | addEllipseImage | addText =>
    cases hf
    exact sameFrame_layerChange h
  | createOutline =>
    cases hf
    obtain ⟨o, -, h⟩ := of_bind_ok h
    cases h
    exact SameFrame.touch ⟨rfl, rfl, rfl⟩
  | loadFont =>
    cases hf
    obtain ⟨f, -, h⟩ := of_bind_ok h
    cases h
    exact SameFrame.touch ⟨rfl, rfl, rfl⟩

/-! ## All canvases -/

/-- The canvases of a world are there in a later one, and none but that of the context has been
changed. -/
structure Keeps (canvas? : Option Nat) (w w' : World) : Prop where
  others : ∀ n, n < w.slots.length → canvas? ≠ some n → w'.slots[n]? = w.slots[n]?
  framed : ∀ (n : Nat) (s : Slot), w.slots[n]? = some s →
    ∃ s', w'.slots[n]? = some s' ∧ SameFrame s.canvas s'.canvas

namespace Keeps

variable {canvas? : Option Nat} {w w₁ w' : World}

theorem length_le (h : Keeps canvas? w w') : w.slots.length ≤ w'.slots.length := by
  apply Nat.le_of_not_lt
  intro hlt
  obtain ⟨s', hs', -⟩ := h.framed _ _ (List.getElem?_eq_getElem hlt)
  exact Nat.lt_irrefl _ (List.getElem?_eq_some_iff.1 hs').1

theorem of_eq (h : w'.slots = w.slots) : Keeps canvas? w w' where
  others n _ _ := by rw [h]
  framed n s hs := ⟨s, by rw [h, hs], .refl _⟩

theorem trans (h : Keeps canvas? w w₁) (h' : Keeps canvas? w₁ w') : Keeps canvas? w w' where
  others n hlt hn := by
    have hlt' : n < w₁.slots.length := Nat.lt_of_lt_of_le hlt h.length_le
    rw [h'.others n hlt' hn, h.others n hlt hn]
  framed n s hs := by
    obtain ⟨s₁, hs₁, hframe⟩ := h.framed n s hs
    obtain ⟨s', hs', hframe'⟩ := h'.framed n s₁ hs₁
    exact ⟨s', hs', hframe.trans hframe'⟩

/-- The canvas of the context is put in the place of itself. -/
theorem of_set {n : Nat} {s : Slot} {canvas : Canvas} (hn : canvas? = some n)
    (hs : w.slots[n]? = some s) (hframe : SameFrame s.canvas canvas)
    (h : w'.slots = w.slots.set n { canvas }) :
    Keeps canvas? w w' where
  others k _ hk := by
    rw [h, List.getElem?_set_ne]
    rintro rfl
    exact hk hn
  framed k t ht := by
    by_cases hk : n = k
    · subst hk
      cases hs.symm.trans ht
      rw [h, List.getElem?_set_self (List.getElem?_eq_some_iff.1 hs).1]
      exact ⟨_, rfl, hframe⟩
    · rw [h, List.getElem?_set_ne hk]
      exact ⟨t, ht, .refl _⟩

/-- Canvases are added behind the others. -/
theorem of_append {later : List Slot} (h : w'.slots = w.slots ++ later) : Keeps canvas? w w' where
  others n hlt _ := by rw [h, List.getElem?_append_left hlt]
  framed n s hs := by
    refine ⟨s, ?_, .refl _⟩
    rw [h, List.getElem?_append_left (List.getElem?_eq_some_iff.1 hs).1, hs]

/-- What is run on the last canvas leaves those before it as they are. It keeps its place between
them and those that are opened meanwhile. -/
theorem surrounds {s : Slot} (h : Keeps (some w.slots.length) w₁ w')
    (hs : w₁.slots = w.slots ++ [s]) :
    ∃ s' later, w'.slots = w.slots ++ s' :: later ∧ SameFrame s.canvas s'.canvas := by
  have hlast : w₁.slots[w.slots.length]? = some s := by
    rw [hs, List.getElem?_append_right (Nat.le_refl _), Nat.sub_self]
    rfl
  obtain ⟨s', hs', hframe⟩ := h.framed _ s hlast
  obtain ⟨hlt, rfl⟩ := List.getElem?_eq_some_iff.1 hs'
  have hbefore : w'.slots.take w.slots.length = w.slots := by
    refine List.ext_getElem? fun n => ?_
    by_cases hn : n < w.slots.length
    · have hlt₁ : n < w₁.slots.length := by
        rw [hs, List.length_append]
        omega
      have hne : some w.slots.length ≠ some n := by
        intro he
        cases he
        omega
      rw [List.getElem?_take_of_lt hn, h.others n hlt₁ hne, hs, List.getElem?_append_left hn]
    · have hlen : (w'.slots.take w.slots.length).length ≤ n := by
        rw [List.length_take]
        omega
      rw [List.getElem?_eq_none hlen, List.getElem?_eq_none (by omega)]
  refine ⟨_, w'.slots.drop (w.slots.length + 1), ?_, hframe⟩
  calc w'.slots
      = w'.slots.take w.slots.length ++ w'.slots.drop w.slots.length :=
        (List.take_append_drop ..).symm
    _ = _ := by rw [hbefore, List.drop_eq_getElem_cons hlt]

end Keeps

/-! ## Evaluations -/

/-- An own step changes no canvas but that of its context. -/
theorem keeps_of_effect {c : Context Action} {d : Definition Action} {a : Arguments}
    {w w' : World} {o : Option Fault} (h : Effect c d a w o w') : Keeps c.canvas? w w' := by
  cases h with
  | «variable» hd hs => exact .of_eq hs
  | pathless | stray => exact .of_eq rfl
  | changes hd hn hs hf => exact .of_set hn hs (sameFrame_of_change hd hf) rfl
  | refuses hd hn hs | unrendered hd hn hs => exact .of_set hn hs (.refl _) rfl
  | renders hd hn hs => exact .of_set hn hs (sameFrame_markRendered _) rfl

/-- An evaluation changes no canvas but that of its context, and those that it opens itself. -/
theorem Ends.keeps {c : Context Action} {t : Task} {w w' : World} {o : Option Fault}
    (h : Ends c t w o w') : Keeps c.canvas? w w' := by
  induction h with
  | text | mention | unknown | nil | done => exact .of_eq rfl
  | unresolved hn hd hargs ih | refused hn hd hargs hr hv ih
  | unopened hn hd ha hargs hr hv hm ih => exact ih
  | acts hn hd hargs hr hv ha ih => exact ih.trans (keeps_of_effect (effect_of_acts ha))
  | opened hn hd ha hargs hr hv ho hcode ih ih' =>
    refine ih.trans ?_
    rcases opening_cases ho with ⟨fault, -, hf, -⟩ | ⟨width, height, id, ids, -, hi, rfl⟩
    · cases hf
    · cases hi
      obtain ⟨s, later, hslots, -⟩ := ih'.surrounds rfl
      exact .of_append hslots
  | stop hn ih => exact ih
  | cons hn hns ih ih' => exact ih.trans ih'
  | script hs has ih | stuck hs has ih => exact ih
  | resolved hs ha has ih ih' => exact ih.trans ih'

/-! ## Contexts and worlds -/

/-- No canvas is being edited. -/
def Idle (w : World) : Prop :=
  ∀ s ∈ w.slots, s.busy = false

/-- What is true of all slots stays so when one is set to another slot that it is true of. -/
theorem forall_mem_set {P : Slot → Prop} {slots : List Slot} (h : ∀ s ∈ slots, P s) (n : Nat)
    {s : Slot} (hs : P s) : ∀ s' ∈ slots.set n s, P s' := by
  intro s' hs'
  rcases List.mem_or_eq_of_mem_set hs' with hs' | rfl
  · exact h s' hs'
  · exact hs

theorem idle_of_effect {c : Context Action} {d : Definition Action} {a : Arguments} {w w' : World}
    {o : Option Fault} (h : Effect c d a w o w') (hi : Idle w) : Idle w' := by
  cases h with
  | «variable» hd hs =>
    unfold Idle
    rw [hs]
    exact hi
  | pathless | stray => exact hi
  | changes | refuses | renders | unrendered => exact forall_mem_set hi _ rfl

/-- The context belongs into the world. -/
structure Fit (c : Context Action) (w : World) : Prop where
  standard : IsStandard c
  /-- Without a canvas, no command can be seen that is scoped under another one. -/
  unscoped : c.canvas? = none → AllFiled (·.parent? = none) c.commands
  present : Present c w
  idle : Idle w

/-- A script begins in a world without canvases. -/
theorem fit_root {config settings : Config} {r : Registry Action} (hr : registry config = .ok r)
    (files : Storage.FileSystem) (ids : IdSupply) :
    Fit (Context.root r settings) { files, ids } where
  standard := ⟨(isStandard_root hr).registry, (isStandard_root hr).commands⟩
  unscoped _ := by
    refine allFiled_insertAll allFiled_empty fun d hd => ?_
    exact Option.isNone_iff_eq_none.1 (List.mem_filter.1 hd).2
  present := nofun
  idle := nofun

theorem Fit.later {c : Context Action} {w w' : World} (h : Fit c w) (hk : Keeps c.canvas? w w')
    (hi : Idle w') : Fit c w' :=
  ⟨h.standard, h.unscoped, h.present.later hk.length_le, hi⟩

/-- The code of a canvas has a canvas. -/
theorem Fit.opening {c inner : Context Action} {d : Definition Action} {a : Arguments}
    {w w' : World} (h : Fit c w) (hd : d.action = .createCanvas)
    (ho : (opening c d a).run w = (.ok inner, w')) : Fit inner w' := by
  have hstandard := isStandard_opening h.standard hd ho
  rcases opening_cases ho with ⟨fault, -, hf, -⟩ | ⟨width, height, id, ids, -, hinner, rfl⟩
  · cases hf
  · cases hinner
    refine ⟨hstandard, nofun, fun k hk => ?_, fun s hs => ?_⟩
    · cases hk
      rw [List.length_append]
      exact Nat.lt_succ_self _
    · rcases List.mem_append.1 hs with hs | hs
      · exact h.idle s hs
      · cases List.mem_singleton.1 hs
        rfl

theorem Ends.fit {c : Context Action} {t : Task} {w w' : World} {o : Option Fault}
    (h : Ends c t w o w') (hf : Fit c w) : Fit c w' := by
  refine hf.later h.keeps ?_
  induction h with
  | text | mention | unknown | nil | done => exact hf.idle
  | unresolved hn hd hargs ih | refused hn hd hargs hr hv ih
  | unopened hn hd ha hargs hr hv hm ih => exact ih hf
  | acts hn hd hargs hr hv ha ih => exact idle_of_effect (effect_of_acts ha) (ih hf)
  | opened hn hd ha hargs hr hv ho hcode ih ih' =>
    exact ih' ((hf.later hargs.keeps (ih hf)).opening ha ho)
  | stop hn ih => exact ih hf
  | cons hn hns ih ih' => exact ih' (hf.later hn.keeps (ih hf))
  | script hs has ih | stuck hs has ih => exact ih hf
  | resolved hs ha has ih ih' => exact ih' (hf.later ha.keeps (ih hf))

theorem Arrives.fit {c c' : Context Action} {t : Task} {n' : Node Location} {w w' : World}
    (h : Arrives c t w c' n' w') (hf : Fit c w) : Fit c' w' := by
  induction h with
  | here => exact hf
  | argument hn hd h ih | first h ih | script hs h ih | current hs h ih => exact ih hf
  | code hn hd ha hr hv ho h ih => exact ih ((hr.ends.fit hf).opening ha ho)
  | next hn h ih => exact ih ((ends_node _ _ _ _ _ hn).fit hf)
  | later hs ha h ih => exact ih ((ends_pieces _ _ _ _ _ ha).fit hf)

/-- A command that is scoped under another one has a canvas, and nothing else is editing it. -/
theorem Fit.scoped {c : Context Action} {w : World} (h : Fit c w) {name : String}
    {d : Definition Action} (hd : c.lookup? name = some d) (hp : d.parent? ≠ none) :
    ∃ n s, c.canvas? = some n ∧ w.slots[n]? = some s ∧ s.busy = false := by
  cases hc : c.canvas? with
  | none => exact absurd (prop_of_lookup? (h.unscoped hc) hd) hp
  | some n =>
    have hlt := h.present n hc
    exact ⟨n, w.slots[n], rfl, List.getElem?_eq_getElem hlt, h.idle _ (List.getElem_mem hlt)⟩

end CanvasScript.Standard
