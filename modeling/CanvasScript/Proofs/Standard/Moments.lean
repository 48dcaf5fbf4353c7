import CanvasScript.Proofs.Canvas.WellFormed
import CanvasScript.Proofs.Standard.Frames

/-!
# What holds at every moment

An evaluation goes through many worlds: before and after each node, once the arguments of a call are
there, once a canvas is opened, and at its end, whether it has completed or failed. What is true of
new canvases, and stays true when one is changed or rendered, is true of all canvases in all these
worlds.

* `Passes`: the worlds that evaluating a script goes through.
* `Lasting`: what is true of new canvases, and stays true.
* `AlwaysWellFormed`: all canvases of all scripts are well formed, at every moment.

Results:
* `lasting_of_effect`, `Ends.lasting`, `Arrives.lasting`, `Passes.lasting`: what lasts is true after
  an own step, at the end of an evaluation, where it comes to a node, and at every moment.
* `lasting_wellFormed`: a canvas stays well formed.
* `alwaysWellFormed_registry`: whatever is switched off, the standard commands leave no canvas in
  any other state.
-/

namespace CanvasScript.Standard

open Canvas Command Run Script Settings

/-! ## Moments -/

/-- Evaluating a script in a context of its own goes through a world. -/
inductive Passes (r : Registry Action) (settings : Config) (source : String) (w₀ : World) :
    World → Prop
  /-- It begins. -/
  | start : Passes r settings source w₀ w₀
  /-- It comes to a node. -/
  | begun {nodes : List (Node Location)} {c : Context Action} {n : Node Location} {w : World}
      (hread : Script.read source = .ok nodes)
      (h : Arrives (Context.root r settings) (.nodes nodes) w₀ c n w) :
      Passes r settings source w₀ w
  /-- The arguments of a call are evaluated, or one of them has failed. -/
  | resolved {nodes : List (Node Location)} {c : Context Action} {n : Node Location}
      {w w' : World} {name : String} {as : List (Argument Location)} {d : Definition Action}
      {result : Except Fault (List String)} (hread : Script.read source = .ok nodes)
      (h : Arrives (Context.root r settings) (.nodes nodes) w₀ c n w)
      (hn : called? n = some (name, as)) (hd : c.lookup? name = some d)
      (hr : Resolves c d as w result w') : Passes r settings source w₀ w'
  /-- A canvas is opened, and its code is to be evaluated. -/
  | opened {nodes : List (Node Location)} {c inner : Context Action} {n : Node Location}
      {w w₁ w' : World} {name : String} {as : List (Argument Location)} {d : Definition Action}
      {raws : List String} {a : Arguments} (hread : Script.read source = .ok nodes)
      (h : Arrives (Context.root r settings) (.nodes nodes) w₀ c n w)
      (hn : called? n = some (name, as)) (hd : c.lookup? name = some d)
      (ha : d.action = .createCanvas) (hr : Resolves c d as w (.ok raws) w₁)
      (hv : d.validate raws = .ok a) (ho : (opening c d a).run w₁ = (.ok inner, w')) :
      Passes r settings source w₀ w'
  /-- A node is evaluated, or its evaluation has failed. -/
  | ended {nodes : List (Node Location)} {c : Context Action} {n : Node Location} {w w' : World}
      {result : Except Fault String} (hread : Script.read source = .ok nodes)
      (h : Arrives (Context.root r settings) (.nodes nodes) w₀ c n w)
      (hn : (evaluateNode n c).run w = (result, w')) : Passes r settings source w₀ w'
  /-- The evaluation is over. -/
  | finished {result : Except Fault Evaluation} {w' : World}
      (h : (evaluateScript r settings source).run w₀ = (result, w')) :
      Passes r settings source w₀ w'

/-! ## What lasts -/

/-- True of new canvases, and of those that are changed or rendered if it was true of them. -/
structure Lasting (P : Canvas → Prop) : Prop where
  opened : ∀ id width height, 1 ≤ width ∧ width ≤ maxDimension →
    1 ≤ height ∧ height ≤ maxDimension → P { id, width, height }
  changed : ∀ (action : Action) (f : Arguments → Change), action.change? = some f →
    ∀ a c ids c' ids', f a c ids = .ok (c', ids') → P c → P c'
  rendered : ∀ c, P c → P c.markRendered

/-- All canvases of a world have the property. -/
def Everywhere (P : Canvas → Prop) (w : World) : Prop :=
  ∀ s ∈ w.slots, P s.canvas

variable {P : Canvas → Prop} {c : Context Action} {w w' : World}

/-- An own step. -/
theorem lasting_of_effect (hP : Lasting P) {d : Definition Action} {a : Arguments}
    {o : Option Fault} (h : Effect c d a w o w') (hw : Everywhere P w) : Everywhere P w' := by
  cases h with
  | «variable» hd hs =>
    unfold Everywhere
    rw [hs]
    exact hw
  | pathless | stray => exact hw
  | changes hd hn hs hf =>
    have hbefore := hw _ (List.mem_of_getElem? hs)
    exact forall_mem_set hw _ (hP.changed _ _ hd _ _ _ _ _ hf hbefore)
  | refuses hd hn hs | unrendered hd hn hs =>
    have hbefore := hw _ (List.mem_of_getElem? hs)
    exact forall_mem_set hw _ hbefore
  | renders hd hn hs =>
    have hbefore := hw _ (List.mem_of_getElem? hs)
    exact forall_mem_set hw _ (hP.rendered _ hbefore)

/-- A canvas that is opened is new. -/
theorem Lasting.opening (hP : Lasting P) {d : Definition Action} {a : Arguments}
    {r : Except Fault (Context Action)} (h : (opening c d a).run w = (r, w'))
    (hw : Everywhere P w) : Everywhere P w' := by
  rcases opening_cases h with ⟨fault, -, -, rfl⟩ | ⟨width, height, id, ids, hm, -, rfl⟩
  · exact hw
  · obtain ⟨width', hwidth, hm⟩ := of_bind_ok hm
    obtain ⟨height', hheight, hm⟩ := of_bind_ok hm
    cases hm
    intro s hs
    rcases List.mem_append.1 hs with hs | hs
    · exact hw s hs
    · rw [List.mem_singleton.1 hs]
      exact hP.opened id _ _ (of_dimension hwidth) (of_dimension hheight)

/-- The end of an evaluation, whether it completes or fails. -/
theorem Ends.lasting (hP : Lasting P) {t : Task} {o : Option Fault} (h : Ends c t w o w')
    (hw : Everywhere P w) : Everywhere P w' := by
  induction h with
  | text | mention | unknown | nil | done => exact hw
  | unresolved hn hd hargs ih | refused hn hd hargs hr hv ih
  | unopened hn hd ha hargs hr hv hm ih => exact ih hw
  | acts hn hd hargs hr hv ha ih => exact lasting_of_effect hP (effect_of_acts ha) (ih hw)
  | opened hn hd ha hargs hr hv ho hcode ih ih' => exact ih' (hP.opening ho (ih hw))
  | stop hn ih => exact ih hw
  | cons hn hns ih ih' => exact ih' (ih hw)
  | script hs has ih | stuck hs has ih => exact ih hw
  | resolved hs ha has ih ih' => exact ih' (ih hw)

/-- The world in which an evaluation comes to a node. -/
theorem Arrives.lasting (hP : Lasting P) {t : Task} {c' : Context Action} {n' : Node Location}
    (h : Arrives c t w c' n' w') (hw : Everywhere P w) : Everywhere P w' := by
  induction h with
  | here => exact hw
  | argument hn hd h ih | first h ih | script hs h ih | current hs h ih => exact ih hw
  | code hn hd ha hr hv ho h ih => exact ih (hP.opening ho (hr.ends.lasting hP hw))
  | next hn h ih => exact ih ((ends_node _ _ _ _ _ hn).lasting hP hw)
  | later hs ha h ih => exact ih ((ends_pieces _ _ _ _ _ ha).lasting hP hw)

/-- Every moment. -/
theorem Passes.lasting (hP : Lasting P) {r : Registry Action} {settings : Config}
    {source : String} (h : Passes r settings source w w') (hw : Everywhere P w) :
    Everywhere P w' := by
  cases h with
  | start => exact hw
  | begun hread h => exact h.lasting hP hw
  | resolved hread h hn hd hr => exact hr.ends.lasting hP (h.lasting hP hw)
  | opened hread h hn hd ha hr hv ho =>
    exact hP.opening ho (hr.ends.lasting hP (h.lasting hP hw))
  | ended hread h hn => exact (ends_node _ _ _ _ _ hn).lasting hP (h.lasting hP hw)
  | finished h =>
    rcases ends_evaluateScript h with ⟨fault, -, -, rfl⟩ | ⟨nodes, -, hends, -⟩
    · exact hw
    · exact hends.lasting hP hw

/-! ## Well-formed canvases -/

theorem wellFormed_layerChange {shape : Arguments → Except Fault Shape} {a : Arguments}
    {canvas canvas' : Canvas} {ids ids' : IdSupply}
    (h : layerChange shape a canvas ids = .ok (canvas', ids')) (hc : canvas.WellFormed) :
    canvas'.WellFormed := by
  obtain ⟨s, -, h⟩ := of_bind_ok h
  obtain ⟨x, -, h⟩ := of_bind_ok h
  obtain ⟨y, -, h⟩ := of_bind_ok h
  obtain ⟨⟨l, ids₁⟩, hmake, h⟩ := of_bind_ok h
  cases h
  refine hc.addLayer (Layer.wellFormed_of_make hmake fun o ho => ?_)
  obtain ⟨name, -, ho⟩ := Option.bind_eq_some_iff.1 ho
  exact (hc.outlines name o ho).1

theorem wellFormed_of_outline {a : Arguments} {o : Outline} (h : outline a = .ok o) :
    o.WellFormed := by
  obtain ⟨alpha, -, h⟩ := of_bind_ok h
  obtain ⟨stroke, -, h⟩ := of_bind_ok h
  obtain ⟨id, -, h⟩ := of_bind_ok h
  obtain ⟨type, -, h⟩ := of_bind_ok h
  obtain ⟨kind, -, h⟩ := of_bind_ok h
  obtain ⟨colour, -, h⟩ := of_bind_ok h
  obtain ⟨rfl, hwell⟩ := Outline.make_eq_ok_iff.1 h
  exact hwell

theorem wellFormed_of_font {a : Arguments} {f : Font} (h : font a = .ok f) : f.WellFormed := by
  obtain ⟨family, -, h⟩ := of_bind_ok h
  obtain ⟨path, -, h⟩ := of_bind_ok h
  obtain ⟨word, -, h⟩ := of_bind_ok h
  obtain ⟨weight, -, h⟩ := of_bind_ok h
  obtain ⟨rfl, hwell⟩ := Font.make_eq_ok_iff.1 h
  exact hwell

/-- No change leaves a canvas in another state. -/
theorem wellFormed_of_change {action : Action} {f : Arguments → Change}
    (hf : action.change? = some f) {a : Arguments} {canvas canvas' : Canvas} {ids ids' : IdSupply}
    (h : f a canvas ids = .ok (canvas', ids')) (hc : canvas.WellFormed) : canvas'.WellFormed := by
  cases action with
  | setVariable | getVariable | createCanvas | renderCanvas => cases hf
  | addArc | addCircle | addEllipse | addEllipseImage | addText =>
    cases hf
    exact wellFormed_layerChange h hc
  | createOutline =>
    cases hf
    obtain ⟨o, ho, h⟩ := of_bind_ok h
    cases h
    exact hc.createOutline (wellFormed_of_outline ho)
  | loadFont =>
    cases hf
    obtain ⟨f, hfont, h⟩ := of_bind_ok h
    cases h
    exact hc.loadFont (wellFormed_of_font hfont)

/-- A canvas is opened well formed, and stays so. -/
theorem lasting_wellFormed : Lasting Canvas.WellFormed where
  opened id _ _ hw hh := wellFormed_blank hw hh id
  changed _ _ hf _ _ _ _ _ h hc := wellFormed_of_change hf h hc
  rendered _ hc := hc.markRendered

/-- All canvases of all scripts over the registry are well formed. -/
structure AlwaysWellFormed (r : Registry Action) : Prop where
  /-- They are so at every moment of an evaluation, also if it fails later on. -/
  throughout : ∀ settings source files ids w, Passes r settings source { files, ids } w →
    ∀ canvas ∈ w.canvases, canvas.WellFormed
  /-- They are so when they are handed over. -/
  given : ∀ settings source files ids e w,
    (evaluateScript r settings source).run { files, ids } = (.ok e, w) →
    ∀ canvas ∈ e.canvases, canvas.WellFormed

/-- **Canvases are well formed at every moment**: whatever commands are switched off, no script can
bring a canvas into a state that those who paint it do not expect. -/
theorem alwaysWellFormed_registry (config : Config) :
    ∃ r, registry config = .ok r ∧ AlwaysWellFormed r := by
  -- it does not matter which commands there are, since each action keeps canvases well formed
  have hmoment : ∀ {r settings source files ids w}, Passes r settings source { files, ids } w →
      ∀ canvas ∈ w.canvases, canvas.WellFormed := by
    intro r settings source files ids w h canvas hc
    obtain ⟨s, hs, rfl⟩ := List.mem_map.1 hc
    exact h.lasting lasting_wellFormed nofun s hs
  refine ⟨_, registry_eq config, fun settings source files ids w h => hmoment h, ?_⟩
  intro settings source files ids e w h
  rcases ends_evaluateScript h with ⟨fault, -, hf, -⟩ | ⟨nodes, -, -, hcanvases⟩
  · cases hf
  · rw [hcanvases e rfl]
    exact hmoment (.finished h)

end CanvasScript.Standard
