import CanvasScript.Proofs.Canvas.WellFormed
import CanvasScript.Proofs.Standard.Changes
import CanvasScript.Standard.Packs
import Mathlib.Algebra.Ring.Nat

/-!
# What the standard commands do to the canvases

* `Action.canvases`, `Action.layers`, `Action.renders`: how many canvases a call with an action
  opens, how many layers it adds, and how often it renders.
* `Changes`: what the own step of a call does to the canvases.
* `Performs`, `opening`: the own step of a call, its arguments being there. The code of a canvas
  is run after it.

Results:
* `opening_cases`: a canvas is opened with the size that the arguments say, or not at all.
* `changes_of_opening`: a canvas is opened as the action says.
* `Changes.length_slots`, `Changes.layerCount`, `Changes.renderCount`: what becomes of the totals.
* `Changes.layers_eq`: what becomes of the layers of one canvas.
-/

namespace CanvasScript.Standard

open Canvas Command Run

/-! ## What an action adds -/

namespace Action

/-- The number of canvases that a call opens. -/
def canvases : Action → Nat
  | createCanvas => 1
  | _ => 0

/-- The number of layers that a call adds to its canvas. -/
def layers : Action → Nat
  | addArc | addCircle | addEllipse | addEllipseImage | addText => 1
  | _ => 0

/-- The number of times that a call renders its canvas. -/
def renders : Action → Nat
  | renderCanvas => 1
  | _ => 0

end Action

/-! ## One canvas -/

@[simp] theorem layers_touch (c : Canvas) : c.touch.layers = c.layers := by
  rw [touch_eq]

@[simp] theorem renders_touch (c : Canvas) : c.touch.renders = c.renders := by
  rw [touch_eq]

/-- The canvas has got what an action adds. -/
structure Advances (action : Action) (c c' : Canvas) : Prop where
  layers : ∃ new, c'.layers = c.layers ++ new ∧ new.length = action.layers
  renders : c'.renders = c.renders + action.renders

/-- An action that adds nothing leaves layers and renders alone. -/
theorem Advances.of_eq {action : Action} {c c' : Canvas} (hl : action.layers = 0)
    (hr : action.renders = 0) (hlayers : c'.layers = c.layers) (hrenders : c'.renders = c.renders) :
    Advances action c c' where
  layers := ⟨[], by rw [hlayers, List.append_nil], by rw [hl, List.length_nil]⟩
  renders := by rw [hrenders, hr, Nat.add_zero]

theorem advances_layerChange {action : Action} (hl : action.layers = 1) (hr : action.renders = 0)
    {shape : Arguments → Except Fault Shape} {a : Arguments} {c c' : Canvas} {ids ids' : IdSupply}
    (h : layerChange shape a c ids = .ok (c', ids')) : Advances action c c' := by
  obtain ⟨s, -, h⟩ := of_bind_ok h
  obtain ⟨x, -, h⟩ := of_bind_ok h
  obtain ⟨y, -, h⟩ := of_bind_ok h
  obtain ⟨⟨l, ids₁⟩, -, h⟩ := of_bind_ok h
  cases h
  refine ⟨⟨[l], ?_, hl.symm⟩, ?_⟩
  · rw [Canvas.addLayer, layers_touch]
  · rw [Canvas.addLayer, renders_touch, hr]
    rfl

theorem advances_outlineChange {a : Arguments} {c c' : Canvas} {ids ids' : IdSupply}
    (h : outlineChange a c ids = .ok (c', ids')) :
    Advances .createOutline c c' := by
  obtain ⟨o, -, h⟩ := of_bind_ok h
  cases h
  exact .of_eq rfl rfl (layers_touch _) (renders_touch _)

theorem advances_fontChange {a : Arguments} {c c' : Canvas} {ids ids' : IdSupply}
    (h : fontChange a c ids = .ok (c', ids')) : Advances .loadFont c c' := by
  obtain ⟨f, -, h⟩ := of_bind_ok h
  cases h
  exact .of_eq rfl rfl (layers_touch _) (renders_touch _)

/-! ## All canvases -/

/-- What the own step of a call does to the canvases; `canvas?` is that of its context. -/
inductive Changes (action : Action) (canvas? : Option Nat) (w w' : World) : Prop
  | keeps (hc : action.canvases = 0) (hl : action.layers = 0) (hr : action.renders = 0)
      (h : w'.slots = w.slots)
  | edits (hc : action.canvases = 0) (n : Nat) (s : Slot) (c : Canvas) (hn : canvas? = some n)
      (hs : w.slots[n]? = some s) (ha : Advances action s.canvas c)
      (h : w'.slots = w.slots.set n { canvas := c })
  | opens (ha : action = .createCanvas) (c : Canvas) (hl : c.layers = []) (hr : c.renders = 0)
      (h : w'.slots = w.slots ++ [{ canvas := c }])

/-- The layers of a canvas, none if it is not there. -/
def layersOn (w : World) (k : Nat) : List Layer :=
  ((w.slots[k]?).map (·.canvas.layers)).getD []

/-- The number of layers on all canvases. -/
def layerCount (w : World) : Nat :=
  (w.canvases.map (·.layers.length)).sum

/-- The number of times that canvases were rendered. -/
def renderCount (w : World) : Nat :=
  (w.canvases.map (·.renders)).sum

theorem sum_map_set {β : Type} (f : β → Nat) {l : List β} {n : Nat} {x y : β} {m : Nat}
    (hx : l[n]? = some x) (hy : f y = f x + m) : ((l.set n y).map f).sum = (l.map f).sum + m := by
  induction l generalizing n with
  | nil => cases hx
  | cons z l ih =>
    cases n with
    | zero =>
      cases hx
      simp only [List.set_cons_zero, List.map_cons, List.sum_cons]
      omega
    | succ n =>
      have hx : l[n]? = some x := hx
      simp only [List.set_cons_succ, List.map_cons, List.sum_cons, ih hx]
      omega

namespace Changes

variable {action : Action} {canvas? : Option Nat} {w w' : World}

theorem length_slots (h : Changes action canvas? w w') :
    w'.slots.length = w.slots.length + action.canvases := by
  cases h with
  | keeps hc hl hr h => rw [h, hc, Nat.add_zero]
  | edits hc n s c hn hs ha h => rw [h, hc, List.length_set, Nat.add_zero]
  | opens ha c hl hr h =>
    rw [h, ha, List.length_append]
    rfl

theorem layerCount (h : Changes action canvas? w w') :
    Standard.layerCount w' = Standard.layerCount w + action.layers := by
  unfold Standard.layerCount World.canvases
  rw [List.map_map, List.map_map]
  cases h with
  | keeps hc hl hr h => rw [h, hl, Nat.add_zero]
  | edits hc n s c hn hs ha h =>
    rw [h]
    refine sum_map_set _ hs ?_
    obtain ⟨new, hlayers, hlen⟩ := ha.layers
    simp only [Function.comp_apply, hlayers, List.length_append, hlen]
  | opens ha c hl hr h =>
    subst ha
    simp [h, hl, Action.layers]

theorem renderCount (h : Changes action canvas? w w') :
    Standard.renderCount w' = Standard.renderCount w + action.renders := by
  unfold Standard.renderCount World.canvases
  rw [List.map_map, List.map_map]
  cases h with
  | keeps hc hl hr h => rw [h, hr, Nat.add_zero]
  | edits hc n s c hn hs ha h =>
    rw [h]
    exact sum_map_set _ hs ha.renders
  | opens ha c hl hr h =>
    subst ha
    simp [h, hr, Action.renders]

/-- A canvas keeps its layers, and gets new ones if it is that of the context. -/
theorem layers_eq (h : Changes action canvas? w w') (k : Nat) :
    ∃ new, layersOn w' k = layersOn w k ++ new ∧ new.length ≤ 1 ∧
      (new ≠ [] → canvas? = some k ∧ action.layers = 1) := by
  unfold layersOn
  cases h with
  | keeps hc hl hr h => exact ⟨[], by rw [h, List.append_nil], Nat.zero_le _, absurd rfl⟩
  | edits hc n s c hn hs ha h =>
    obtain ⟨new, hlayers, hlen⟩ := ha.layers
    have hle : new.length ≤ 1 := by
      rw [hlen]
      cases action <;> decide
    by_cases hk : n = k
    · subst hk
      have hlt : n < w.slots.length := (List.getElem?_eq_some_iff.1 hs).1
      refine ⟨new, ?_, hle, fun hne => ⟨hn, ?_⟩⟩
      · rw [h, List.getElem?_set_self hlt, hs]
        exact hlayers
      · have hpos := List.length_pos_iff.2 hne
        omega
    · exact ⟨[], by rw [h, List.getElem?_set_ne hk, List.append_nil], Nat.zero_le _, absurd rfl⟩
  | opens ha c hl hr h =>
    refine ⟨[], ?_, Nat.zero_le _, absurd rfl⟩
    rw [h, List.append_nil, List.getElem?_append]
    split
    · rfl
    · rename_i hk
      rw [List.getElem?_eq_none (Nat.le_of_not_lt hk)]
      cases hd : k - w.slots.length with
      | zero => exact hl
      | succ i => rfl

end Changes

/-! ## Own steps -/

/-- The own step of a command whose arguments are evaluated before it. -/
inductive Performs (c : Context Action) (d : Definition Action) (a : Arguments) (w w' : World) :
    Prop
  | resolved (run : Context Action → Arguments → Eval String)
      (hh : d.action.handler = .resolved run) (text : String)
      (h : (run c a).run w = (.ok text, w'))
  | canvas (run : Arguments → Edit Unit) (hh : (d.action.handler : Handler Action) = .canvas run)
      (u : Unit) (h : (c.withCanvas d.name (run a)).run w = (.ok u, w'))

/-- An own step leads from a world to no more than one other. -/
theorem Performs.unique {c : Context Action} {d : Definition Action} {a : Arguments}
    {w w₁ w₂ : World} (h₁ : Performs c d a w w₁) (h₂ : Performs c d a w w₂) : w₁ = w₂ := by
  cases h₁ with
  | resolved run₁ hh₁ text₁ h₁ =>
    cases h₂ with
    | resolved run₂ hh₂ text₂ h₂ =>
      cases hh₁.symm.trans hh₂
      cases h₁.symm.trans h₂
      rfl
    | canvas run₂ hh₂ u₂ h₂ => cases hh₁.symm.trans hh₂
  | canvas run₁ hh₁ u₁ h₁ =>
    cases h₂ with
    | resolved run₂ hh₂ text₂ h₂ => cases hh₁.symm.trans hh₂
    | canvas run₂ hh₂ u₂ h₂ =>
      cases hh₁.symm.trans hh₂
      cases h₁.symm.trans h₂
      rfl

theorem ne_createCanvas_of_performs {c : Context Action} {d : Definition Action} {a : Arguments}
    {w w' : World} (h : Performs c d a w w') : d.action ≠ .createCanvas := by
  intro ha
  cases h with
  | resolved run hh | canvas run hh =>
    rw [ha] at hh
    cases hh

/-- The own step of the command that creates canvases: the canvas is opened, in the context that
its code runs in. -/
def opening (c : Context Action) (d : Definition Action) (a : Arguments) :
    Eval (Context Action) := do
  let width ← Eval.ofExcept (dimension a "Width")
  let height ← Eval.ofExcept (dimension a "Height")
  let canvas ← Eval.makeCanvas width height
  (c.loadScoped d.name).openCanvas canvas

theorem createCanvas_eq (i : Invocation Action) :
    createCanvas i = (do
      let a ← i.validate
      let inner ← opening i.context i.command a
      match i.argument? "Code" with
      | some code =>
        let _ ← code.resolve inner
        return ""
      | none => return "") := by
  unfold createCanvas
  cases i.argument? "Code" <;> simp only [opening, bind_assoc]

/-- The width and the height that the arguments of a call say. -/
def measures (a : Arguments) : Except Fault (Nat × Nat) := do
  let width ← dimension a "Width"
  let height ← dimension a "Height"
  return (width, height)

theorem of_dimension {a : Arguments} {name : String} {n : Nat} (h : dimension a name = .ok n) :
    1 ≤ n ∧ n ≤ maxDimension := by
  obtain ⟨i, -, h⟩ := of_bind_ok h
  split at h
  · rename_i hi
    cases h
    omega
  · cases h

/-- A canvas is made of every width and height that a call can say. -/
theorem make_of_dimension {a : Arguments} {first second : String} {width height : Nat}
    (hw : dimension a first = .ok width) (hh : dimension a second = .ok height) (ids : IdSupply) :
    Canvas.make width height ids =
      .ok ({ id := (ids.next canvasIdLength).1, width, height }, (ids.next canvasIdLength).2) := by
  unfold Canvas.make checkDimension
  rw [if_pos (of_dimension hw), if_pos (of_dimension hh)]
  rfl

/-- A canvas of the size that the arguments say is opened behind the others, unless they say
none. -/
theorem opening_cases {c : Context Action} {d : Definition Action} {a : Arguments}
    {w w' : World} {r : Except Fault (Context Action)} (h : (opening c d a).run w = (r, w')) :
    (∃ fault, measures a = .error fault ∧ r = .error fault ∧ w' = w) ∨
      ∃ width height id ids, measures a = .ok (width, height) ∧
        r = .ok { c.loadScoped d.name with canvas? := some w.slots.length } ∧
        w' = { w with ids, slots := w.slots ++ [{ canvas := { id, width, height } }] } := by
  rcases Eval.bind_cases h with ⟨width, w₁, hw, h₁⟩ | ⟨fault, hw, rfl⟩
  · obtain ⟨hwidth, rfl⟩ := Eval.of_ofExcept hw
    rcases Eval.bind_cases h₁ with ⟨height, w₂, hh, h₂⟩ | ⟨fault, hh, rfl⟩
    · obtain ⟨hheight, rfl⟩ := Eval.of_ofExcept hh
      have hmake := make_of_dimension hwidth hheight w₂.ids
      have hmeasures : measures a = .ok (width, height) := by
        rw [measures, hwidth, hheight]
        rfl
      rcases Eval.bind_cases h₂ with ⟨canvas, w₃, hm, h₃⟩ | ⟨fault, hm, rfl⟩
      · cases h₃
        rcases Eval.makeCanvas_cases hm with ⟨canvas', ids, hm, hc, rfl⟩ | ⟨fault, -, hr, -⟩
        · cases hc
          cases hmake.symm.trans hm
          exact .inr ⟨width, height, _, _, hmeasures, rfl, rfl⟩
        · cases hr
      · rcases Eval.makeCanvas_cases hm with ⟨canvas', ids, -, hr, -⟩ | ⟨fault, hm, -⟩
        · cases hr
        · cases hmake.symm.trans hm
    · obtain ⟨hheight, rfl⟩ := Eval.of_ofExcept hh
      refine .inl ⟨fault, ?_, rfl, rfl⟩
      rw [measures, hwidth, hheight]
      rfl
  · obtain ⟨hwidth, rfl⟩ := Eval.of_ofExcept hw
    refine .inl ⟨fault, ?_, rfl, rfl⟩
    rw [measures, hwidth]
    rfl

theorem changes_of_opening {c inner : Context Action} {d : Definition Action} {a : Arguments}
    {w w' : World} (hd : d.action = .createCanvas) (h : (opening c d a).run w = (.ok inner, w')) :
    inner = { c.loadScoped d.name with canvas? := some w.slots.length } ∧
      Changes d.action c.canvas? w w' := by
  rcases opening_cases h with ⟨fault, -, hr, -⟩ | ⟨width, height, id, ids, -, hr, rfl⟩
  · cases hr
  · cases hr
    exact ⟨rfl, .opens hd _ rfl rfl rfl⟩

end CanvasScript.Standard
