import CanvasScript.Proofs.Script.Positions
import CanvasScript.Proofs.Standard.Endings

/-!
# Journals of evaluations

An evaluation that succeeds carries out calls, one after the other. Its journal lists them.

* `Entry`: a call that was carried out, with the world before and after its own step. The calls
  in its arguments come before its own step, those in the code of a canvas after it.
* `Runs`: a task leads from a world to another one, with a journal. It follows the ways in which
  an evaluation comes to a call: through arguments, surplus ones too, and through the code of a
  canvas, in a context of its own.

Results:
* `Runs.unique`: a task has no more than one journal.
* `Runs.completes`: every journal is that of an evaluation that completes.
* `Ends.runs`: every evaluation that completes has a journal.
* `runs_evaluateScript`: so has a whole script.
-/

namespace CanvasScript.Standard

open Command Run Script Settings

/-- A call that was carried out. -/
structure Entry where
  site : Site Location
  command : Definition Action
  /-- The world before the own step of the call. -/
  before : World
  /-- The world after it. -/
  after : World

/-- A task, evaluated in a context, leads from a world to another one, and these are the calls that
are carried out, in order. -/
inductive Runs : Context Action → Task → World → List Entry → World → Prop
  | text {c : Context Action} {w : World} {content : String} :
      Runs c (.node (.text content)) w [] w
  | mention {c : Context Action} {w : World} {name : String} {span : Span Location}
      (h : c.lookup? name = none) : Runs c (.node (.mention name span)) w [] w
  | call {c : Context Action} {w w₁ w₂ : World} {name : String}
      {as : List (Argument Location)} {span : Span Location} {d : Definition Action}
      {a : Arguments} {js : List Entry} (hd : c.lookup? name = some d)
      (hargs : Runs c (.arguments d 0 as) w js w₁)
      (hv : (Invocation.validate ⟨d, delayAll as, c⟩).run w = (.ok a, w₁))
      (hp : Performs c d a w₁ w₂) :
      Runs c (.node (.call name as span)) w (js ++ [⟨⟨name, span⟩, d, w₁, w₂⟩]) w₂
  | createCanvas {c inner : Context Action} {w w₁ w₂ w₃ : World} {name : String}
      {as : List (Argument Location)} {span : Span Location} {d : Definition Action}
      {a : Arguments} {js js' : List Entry} (hd : c.lookup? name = some d)
      (ha : d.action = .createCanvas) (hargs : Runs c (.arguments d 0 as) w js w₁)
      (hv : (Invocation.validate ⟨d, delayAll as, c⟩).run w = (.ok a, w₁))
      (ho : (opening c d a).run w₁ = (.ok inner, w₂))
      (hcode : Runs inner (.nodes (codeOf d as)) w₂ js' w₃) :
      Runs c (.node (.call name as span)) w (js ++ ⟨⟨name, span⟩, d, w₁, w₂⟩ :: js') w₃
  | nil {c : Context Action} {w : World} : Runs c (.nodes []) w [] w
  | cons {c : Context Action} {w w₁ w' : World} {n : Node Location} {ns : List (Node Location)}
      {js js' : List Entry} (hn : Runs c (.node n) w js w₁) (hns : Runs c (.nodes ns) w₁ js' w') :
      Runs c (.nodes (n :: ns)) w (js ++ js') w'
  | done {c : Context Action} {w : World} {d : Definition Action} {index : Nat} :
      Runs c (.arguments d index []) w [] w
  | script {c : Context Action} {w w' : World} {d : Definition Action} {index : Nat}
      {a : Argument Location} {as : List (Argument Location)} {js : List Entry}
      (hs : takesScript d index = true) (has : Runs c (.arguments d (index + 1) as) w js w') :
      Runs c (.arguments d index (a :: as)) w js w'
  | resolved {c : Context Action} {w w₁ w' : World} {d : Definition Action} {index : Nat}
      {a : Argument Location} {as : List (Argument Location)} {js js' : List Entry}
      (hs : takesScript d index = false) (ha : Runs c (.nodes a.nodes) w js w₁)
      (has : Runs c (.arguments d (index + 1) as) w₁ js' w') :
      Runs c (.arguments d index (a :: as)) w (js ++ js') w'

/-- A task has no more than one journal. -/
theorem Runs.unique {c : Context Action} {t : Task} {w w' : World} {js : List Entry}
    (h : Runs c t w js w') : ∀ {js₁ : List Entry} {w₁' : World}, Runs c t w js₁ w₁' →
      js = js₁ ∧ w' = w₁' := by
  induction h with
  | text | mention | nil | done =>
    intro js₁ w₁' h₁
    cases h₁
    exact ⟨rfl, rfl⟩
  | call hd hargs hv hp ih =>
    intro js₁ w₁' h₁
    cases h₁ with
    | call hd₁ hargs₁ hv₁ hp₁ =>
      cases hd.symm.trans hd₁
      obtain ⟨rfl, rfl⟩ := ih hargs₁
      cases hv.symm.trans hv₁
      cases hp.unique hp₁
      exact ⟨rfl, rfl⟩
    | createCanvas hd₁ ha₁ =>
      cases hd.symm.trans hd₁
      exact absurd ha₁ (ne_createCanvas_of_performs hp)
  | createCanvas hd ha hargs hv ho hcode ih ih' =>
    intro js₁ w₁' h₁
    cases h₁ with
    | call hd₁ hargs₁ hv₁ hp₁ =>
      cases hd.symm.trans hd₁
      exact absurd ha (ne_createCanvas_of_performs hp₁)
    | createCanvas hd₁ ha₁ hargs₁ hv₁ ho₁ hcode₁ =>
      cases hd.symm.trans hd₁
      obtain ⟨rfl, rfl⟩ := ih hargs₁
      cases hv.symm.trans hv₁
      cases ho.symm.trans ho₁
      obtain ⟨rfl, rfl⟩ := ih' hcode₁
      exact ⟨rfl, rfl⟩
  | cons hn hns ih ih' =>
    intro js₁ w₁' h₁
    cases h₁ with
    | cons hn₁ hns₁ =>
      obtain ⟨rfl, rfl⟩ := ih hn₁
      obtain ⟨rfl, rfl⟩ := ih' hns₁
      exact ⟨rfl, rfl⟩
  | script hs has ih =>
    intro js₁ w₁' h₁
    cases h₁ with
    | script hs₁ has₁ => exact ih has₁
    | resolved hs₁ => cases hs.symm.trans hs₁
  | resolved hs ha has ih ih' =>
    intro js₁ w₁' h₁
    cases h₁ with
    | script hs₁ => cases hs.symm.trans hs₁
    | resolved hs₁ ha₁ has₁ =>
      obtain ⟨rfl, rfl⟩ := ih ha₁
      obtain ⟨rfl, rfl⟩ := ih' has₁
      exact ⟨rfl, rfl⟩

variable {c : Context Action} {w w' : World}

/-! ## Every journal is that of an evaluation -/

/-- The evaluation of a task in a context completes, and leads from a world to another one. -/
def Task.Completes (c : Context Action) (w w' : World) : Task → Prop
  | .node n => ∃ text, (evaluateNode n c).run w = (.ok text, w')
  | .nodes ns => ∃ texts, (pieces ns c).run w = (.ok texts, w')
  | .arguments d index as => ∀ arguments, ∃ raws,
      ((⟨d, arguments, c⟩ : Invocation Action).rawTexts index (delayAll as)).run w = (.ok raws, w')

/-- A call completes if its arguments and its own step do. -/
theorem completes_of_performs {name : String} {as : List (Argument Location)}
    {span : Span Location} {d : Definition Action} {a : Arguments} {w₁ : World}
    (hd : c.lookup? name = some d)
    (hv : (Invocation.validate ⟨d, delayAll as, c⟩).run w = (.ok a, w₁))
    (hp : Performs c d a w₁ w') : Task.Completes c w w' (.node (.call name as span)) := by
  cases hp with
  | resolved run hh text h =>
    refine ⟨text, ?_⟩
    rw [evaluateNode_called rfl hd, hh, Handler.run, Eval.run_bind, hv]
    exact Eval.run_inCommand d.name h
  | canvas run hh u h =>
    refine ⟨"", ?_⟩
    rw [evaluateNode_called rfl hd, hh, Handler.run, Eval.run_bind, hv]
    dsimp only
    rw [Eval.run_bind, Eval.run_inCommand d.name h]
    rfl

/-- So does a call that creates a canvas, if its code completes. -/
theorem completes_of_opening {inner : Context Action} {name : String}
    {as : List (Argument Location)} {span : Span Location} {d : Definition Action} {a : Arguments}
    {w₁ w₂ : World} (hd : c.lookup? name = some d) (ha : d.action = .createCanvas)
    (hv : (Invocation.validate ⟨d, delayAll as, c⟩).run w = (.ok a, w₁))
    (ho : (opening c d a).run w₁ = (.ok inner, w₂))
    (hcode : Task.Completes inner w₂ w' (.nodes (codeOf d as))) :
    Task.Completes c w w' (.node (.call name as span)) := by
  have hh : (d.action.handler : Handler Action) = .deferred createCanvas := by
    rw [ha]
    rfl
  obtain ⟨texts, hcode⟩ := hcode
  refine ⟨"", ?_⟩
  rw [evaluateNode_called rfl hd, hh, Handler.run, createCanvas_eq, Eval.run_bind, hv]
  dsimp only
  rw [Eval.run_bind, ho, argument?_code]
  exact run_code hcode

/-- An argument that is evaluated completes if its nodes do. -/
theorem completes_resolved {d : Definition Action} {index : Nat} {a : Argument Location}
    {as : List (Argument Location)} {w₁ : World} (hs : takesScript d index = false)
    (ha : Task.Completes c w w₁ (.nodes a.nodes))
    (has : Task.Completes c w₁ w' (.arguments d (index + 1) as)) :
    Task.Completes c w w' (.arguments d index (a :: as)) := by
  intro arguments
  obtain ⟨nodes, source, span⟩ := a
  obtain ⟨texts, ha⟩ := ha
  obtain ⟨raws, has⟩ := has arguments
  refine ⟨String.join texts :: raws, ?_⟩
  rw [delayAll, Invocation.rawTexts, rawText_of_not_script hs, delay, bind_assoc, Eval.run_bind, ha]
  dsimp only
  rw [pure_bind, Eval.run_bind, has]
  rfl

/-- Every journal is that of an evaluation that completes. -/
theorem Runs.completes {t : Task} {js : List Entry} (h : Runs c t w js w') :
    t.Completes c w w' := by
  induction h with
  | text => exact ⟨_, rfl⟩
  | @mention c w name span h =>
    refine ⟨name, ?_⟩
    rw [evaluateNode, callByName, h]
    rfl
  | call hd hargs hv hp ih => exact completes_of_performs hd hv hp
  | createCanvas hd ha hargs hv ho hcode ih ih' => exact completes_of_opening hd ha hv ho ih'
  | nil => exact ⟨_, rfl⟩
  | cons hn hns ih ih' =>
    obtain ⟨text, hn⟩ := ih
    obtain ⟨texts, hns⟩ := ih'
    refine ⟨text :: texts, ?_⟩
    rw [pieces, Eval.run_bind, hn]
    dsimp only
    rw [Eval.run_bind, hns]
    rfl
  | done => exact fun arguments => ⟨_, rfl⟩
  | @script c w w' d index a as js hs has ih =>
    intro arguments
    obtain ⟨raws, has⟩ := ih arguments
    refine ⟨(delay a : Delayed Action).source :: raws, ?_⟩
    rw [delayAll, Invocation.rawTexts, rawText_of_script hs, pure_bind, Eval.run_bind, has]
    rfl
  | resolved hs ha has ih ih' => exact completes_resolved hs ih ih'

/-! ## Every evaluation has a journal -/

/-- The context that the code of a canvas runs in. -/
theorem isStandard_opening (hc : IsStandard c) {inner : Context Action} {d : Definition Action}
    {a : Arguments} (hd : d.action = .createCanvas)
    (ho : (opening c d a).run w = (.ok inner, w')) : IsStandard inner := by
  rw [(changes_of_opening hd ho).1]
  exact ⟨hc.registry, (isStandard_loadScoped hc d.name).commands⟩

/-- A command whose arguments are accepted is called with brackets: a name without brackets has no
arguments, and every command needs some. -/
theorem exists_span_of_resolves {n : Node Location} {name : String} {as : List (Argument Location)}
    {d : Definition Action} {raws : List String} {a : Arguments} (hd : d ∈ definitions)
    (hn : called? n = some (name, as)) (hr : Resolves c d as w (.ok raws) w')
    (hv : d.validate raws = .ok a) : ∃ span, n = .call name as span := by
  cases n with
  | text content => cases hn
  | mention name' span =>
    cases hn
    cases hr
    exact absurd hv (validate_nil hd a)
  | call name' as' span =>
    cases hn
    exact ⟨span, rfl⟩

/-- Every evaluation that completes has a journal. -/
theorem Ends.runs {t : Task} {o : Option Fault} (h : Ends c t w o w') (hc : IsStandard c)
    (ho : o = none) : ∃ js, Runs c t w js w' := by
  induction h with
  | text => exact ⟨[], .text⟩
  | mention h => exact ⟨[], .mention h⟩
  | nil => exact ⟨[], .nil⟩
  | done => exact ⟨[], .done⟩
  | unknown | unresolved | refused | unopened | stop | stuck => cases ho
  | acts hn hd hargs hr hv ha ih =>
    subst ho
    obtain ⟨span, rfl⟩ := exists_span_of_resolves (of_lookup? hc hd).1 hn hr hv
    obtain ⟨js, hjs⟩ := ih hc rfl
    exact ⟨_, .call hd hjs (validate_ok_iff.2 ⟨_, hr, hv⟩) ha.performs⟩
  | opened hn hd ha hargs hr hv hop hcode ih ih' =>
    obtain ⟨span, rfl⟩ := exists_span_of_resolves (of_lookup? hc hd).1 hn hr hv
    obtain ⟨js, hjs⟩ := ih hc rfl
    obtain ⟨js', hjs'⟩ := ih' (isStandard_opening hc ha hop) ho
    exact ⟨_, .createCanvas hd ha hjs (validate_ok_iff.2 ⟨_, hr, hv⟩) hop hjs'⟩
  | cons hn hns ih ih' =>
    obtain ⟨js, hjs⟩ := ih hc rfl
    obtain ⟨js', hjs'⟩ := ih' hc ho
    exact ⟨_, .cons hjs hjs'⟩
  | script hs has ih =>
    obtain ⟨js, hjs⟩ := ih hc ho
    exact ⟨js, .script hs hjs⟩
  | resolved hs ha has ih ih' =>
    obtain ⟨js, hjs⟩ := ih hc rfl
    obtain ⟨js', hjs'⟩ := ih' hc ho
    exact ⟨_, .resolved hs hjs hjs'⟩

/-- Every evaluation of a script that succeeds has a journal, and it gives the canvases that are
there at the end. -/
theorem runs_evaluateScript {config : Config} {r : Registry Action}
    (hr : registry config = .ok r) {source : String} {e : Evaluation}
    (h : (evaluateScript r config source).run w = (.ok e, w')) :
    ∃ nodes js, Script.read source = .ok nodes ∧
      Runs (Context.root r config) (.nodes nodes) w js w' ∧ e.canvases = w'.canvases := by
  rcases ends_evaluateScript h with ⟨fault, -, hf, -⟩ | ⟨nodes, hread, hends, hcanvases⟩
  · cases hf
  · obtain ⟨js, hjs⟩ := hends.runs (isStandard_root hr) rfl
    exact ⟨nodes, js, hread, hjs, hcanvases e rfl⟩

end CanvasScript.Standard
