import CanvasScript.Proofs.Standard.Effects

/-!
# What a call does, however it ends

A call evaluates its arguments, converts them, and takes its own step. It can end with a fault at
each of these points.

* `faultOf`: the fault that a step has ended with, if any.
* `Acts`: the own step of a command whose arguments are evaluated before it, with its fault.
* `Effect`: what an own step does to the world, and the fault that it ends with.

Results:
* `handler_cases`: every way in which a call can end.
* `effect_of_acts`: every own step has one of the effects.
* `changes_of_performs`: one that completes does what its action says, and this to the canvas of its
  context.
-/

namespace CanvasScript.Standard

open Canvas Command Run

variable {c : Context Action} {d : Definition Action} {a : Arguments} {w w' : World}

/-- The fault that a step has ended with. -/
def faultOf {β : Type} : Except Fault β → Option Fault
  | .ok _ => none
  | .error fault => some fault

/-! ## Own steps -/

/-- The own step of a command whose arguments are evaluated before it, and how it ends. Its faults
are attributed to the command. -/
inductive Acts (c : Context Action) (d : Definition Action) (a : Arguments) (w : World) :
    Option Fault → World → Prop
  | resolved (run : Context Action → Arguments → Eval String)
      (hh : d.action.handler = .resolved run) {r : Except Fault String} {w' : World}
      (h : (Eval.inCommand d.name (run c a)).run w = (r, w')) : Acts c d a w (faultOf r) w'
  | canvas (run : Arguments → Edit Unit) (hh : (d.action.handler : Handler Action) = .canvas run)
      {r : Except Fault Unit} {w' : World}
      (h : (Eval.inCommand d.name (c.withCanvas d.name (run a))).run w = (r, w')) :
      Acts c d a w (faultOf r) w'

theorem Acts.performs (h : Acts c d a w none w') : Performs c d a w w' := by
  generalize ho : (none : Option Fault) = o at h
  cases h with
  | @resolved run hh r w' h =>
    cases r with
    | error fault => cases ho
    | ok text => exact .resolved run hh text (Eval.of_inCommand h)
  | @canvas run hh r w' h =>
    cases r with
    | error fault => cases ho
    | ok u => exact .canvas run hh u (Eval.of_inCommand h)

/-- Only the command that creates canvases has its arguments left to it. -/
theorem eq_createCanvas_of_deferred {run : Invocation Action → Eval String}
    (h : (d.action.handler : Handler Action) = .deferred run) :
    d.action = .createCanvas ∧ run = createCanvas := by
  cases ha : d.action with
  | createCanvas =>
    rw [ha] at h
    cases h
    exact ⟨rfl, rfl⟩
  | setVariable | getVariable | renderCanvas | addArc | addCircle | addEllipse | addEllipseImage
  | addText | createOutline | loadFont =>
    rw [ha] at h
    cases h

/-- How a call ends: with its arguments, with its own step, or with the code of the canvas that it
has opened. -/
theorem handler_cases {arguments : List (Delayed Action)} {r : Except Fault String}
    (h : (d.action.handler.run ⟨d, arguments, c⟩).run w = (r, w')) :
    (∃ fault, (Invocation.validate ⟨d, arguments, c⟩).run w = (.error fault, w') ∧
        r = .error fault) ∨
      ∃ a w₁, (Invocation.validate ⟨d, arguments, c⟩).run w = (.ok a, w₁) ∧
        (Acts c d a w₁ (faultOf r) w' ∨
          d.action = .createCanvas ∧
            ((∃ fault, (opening c d a).run w₁ = (.error fault, w') ∧ r = .error fault) ∨
              ∃ inner w₂, (opening c d a).run w₁ = (.ok inner, w₂) ∧
                ((⟨d, arguments, c⟩ : Invocation Action).argument? "Code" = none ∧ r = .ok "" ∧
                    w' = w₂ ∨
                  ∃ code result,
                    (⟨d, arguments, c⟩ : Invocation Action).argument? "Code" = some code ∧
                    (code.resolve inner).run w₂ = (result, w') ∧
                    r = result.map fun _ => ""))) := by
  cases hh : (d.action.handler : Handler Action) with
  | resolved run =>
    rw [hh] at h
    rcases Eval.bind_cases h with ⟨a, w₁, hv, h₁⟩ | h₁
    · exact .inr ⟨a, w₁, hv, .inl (.resolved run hh h₁)⟩
    · exact .inl h₁
  | canvas run =>
    rw [hh] at h
    rcases Eval.bind_cases h with ⟨a, w₁, hv, h₁⟩ | h₁
    · refine .inr ⟨a, w₁, hv, .inl ?_⟩
      rcases Eval.bind_cases h₁ with ⟨u, w₂, hw, h₂⟩ | ⟨fault, hw, rfl⟩
      · cases h₂
        exact .canvas (r := .ok u) run hh hw
      · exact .canvas (r := .error fault) run hh hw
    · exact .inl h₁
  | deferred run =>
    obtain ⟨ha, rfl⟩ := eq_createCanvas_of_deferred hh
    rw [hh, Handler.run, createCanvas_eq] at h
    rcases Eval.bind_cases h with ⟨a, w₁, hv, h₁⟩ | h₁
    · refine .inr ⟨a, w₁, hv, .inr ⟨ha, ?_⟩⟩
      rcases Eval.bind_cases h₁ with ⟨inner, w₂, ho, h₂⟩ | h₂
      · refine .inr ⟨inner, w₂, ho, ?_⟩
        split at h₂
        · rename_i code hcode
          rcases Eval.bind_cases h₂ with ⟨text, w₃, hr, h₃⟩ | ⟨fault, hr, rfl⟩
          · cases h₃
            exact .inr ⟨code, .ok text, hcode, hr, rfl⟩
          · exact .inr ⟨code, .error fault, hcode, hr, rfl⟩
        · rename_i hcode
          cases h₂
          exact .inl ⟨hcode, rfl, rfl⟩
      · exact .inl h₂
    · exact .inl h₁

/-! ## What an own step does -/

/-- The context has no canvas, or one that is being edited. -/
def NoCanvas (canvas? : Option Nat) (w : World) : Prop :=
  ∀ n s, canvas? = some n → w.slots[n]? = some s → s.busy = true

/-- What an own step does, and the fault that it ends with. -/
inductive Effect (c : Context Action) (d : Definition Action) (a : Arguments) (w : World) :
    Option Fault → World → Prop
  /-- A variable is set or read. -/
  | variable (hd : d.action = .setVariable ∨ d.action = .getVariable) {o : Option Fault}
      {w' : World} (hs : w'.slots = w.slots)
      (ho : ∀ fault, o = some fault → ∃ expected received,
        fault = .argument d.name expected received) : Effect c d a w o w'
  /-- A canvas is to be rendered, but the path is missing. -/
  | pathless (hd : d.action = .renderCanvas) {fault : Fault}
      (hp : a.string "Path" = .error fault) : Effect c d a w (some (fault.inCommand d.name)) w
  /-- There is no canvas to work on. -/
  | stray (hd : d.action = .renderCanvas ∨ d.action.change?.isSome = true)
      (hc : NoCanvas c.canvas? w) (command reason : String) :
      Effect c d a w (some (.scope command reason)) w
  /-- The canvas is changed. -/
  | changes {f : Arguments → Change} (hd : d.action.change? = some f) {n : Nat} {s : Slot}
      (hn : c.canvas? = some n) (hs : w.slots[n]? = some s) {canvas : Canvas} {ids : IdSupply}
      (hf : f a s.canvas w.ids = .ok (canvas, ids)) :
      Effect c d a w none { w with ids, slots := w.slots.set n { canvas } }
  /-- The change is refused. -/
  | refuses {f : Arguments → Change} (hd : d.action.change? = some f) {n : Nat} {s : Slot}
      (hn : c.canvas? = some n) (hs : w.slots[n]? = some s) {fault : Fault}
      (hf : f a s.canvas w.ids = .error fault) :
      Effect c d a w (some (fault.inCommand d.name))
        { w with slots := w.slots.set n { canvas := s.canvas } }
  /-- The canvas is painted and saved. -/
  | renders (hd : d.action = .renderCanvas) {n : Nat} {s : Slot} (hn : c.canvas? = some n)
      (hs : w.slots[n]? = some s) (path : Storage.FilePath) {files : Storage.FileSystem}
      (hr : (Picture.saveCanvas s.canvas path).run w.files = (.ok (), files)) :
      Effect c d a w none
        { w with files, slots := w.slots.set n { canvas := s.canvas.markRendered } }
  /-- The canvas cannot be painted or saved. -/
  | unrendered (hd : d.action = .renderCanvas) {n : Nat} {s : Slot} (hn : c.canvas? = some n)
      (hs : w.slots[n]? = some s) (path : Storage.FilePath) {files : Storage.FileSystem}
      {fault : Fault}
      (hr : (Picture.saveCanvas s.canvas path).run w.files = (.error fault, files)) :
      Effect c d a w (some (fault.inCommand d.name))
        { w with files, slots := w.slots.set n { canvas := s.canvas } }

/-- A text that is missing is missed by the command of the arguments. -/
theorem argument_of_string {name : String} {fault : Fault} (h : a.string name = .error fault) :
    ∃ expected, fault = .argument a.command expected "" := by
  unfold Arguments.string at h
  split at h
  · cases h
  · cases h
    exact ⟨_, rfl⟩

theorem effect_of_change {f : Arguments → Change} (hd : d.action.change? = some f) {e : Edit Unit}
    (hcarries : e.CarriesOut (f a)) {r : Except Fault Unit}
    (h : (Eval.inCommand d.name (c.withCanvas d.name e)).run w = (r, w')) :
    Effect c d a w (faultOf r) w' := by
  obtain ⟨r₀, hw, rfl⟩ := Eval.inCommand_cases h
  rcases Eval.withCanvas_cases hw with ⟨reason, rfl, rfl, hc⟩ | ⟨n, s, canvas, w₁, hn, hs, he, rfl⟩
  · exact .stray (.inr (by rw [hd]; rfl)) hc d.name reason
  · rcases hcarries.cases he with ⟨ids, hf, rfl, rfl⟩ | ⟨fault, hf, rfl, rfl, rfl⟩
    · have heffect := Effect.changes hd hn hs hf
      simpa [World.setSlot, faultOf, Except.mapError] using heffect
    · have heffect := Effect.refuses hd hn hs hf
      simpa [World.setSlot, faultOf, Except.mapError] using heffect

theorem effect_of_renderCanvas (hd : d.action = .renderCanvas) {r : Except Fault String}
    (h : (Eval.inCommand d.name (renderCanvas c a)).run w = (r, w')) :
    Effect c d a w (faultOf r) w' := by
  obtain ⟨r₀, hrun, rfl⟩ := Eval.inCommand_cases h
  rcases Eval.bind_cases hrun with ⟨path, w₁, hp, h₁⟩ | ⟨fault, hp, rfl⟩
  · rw [(Eval.of_ofExcept hp).2] at h₁
    -- the text that the call stands for adds nothing to the result of the edit
    obtain ⟨r₁, hw, ho⟩ : ∃ r₁ : Except Fault Unit,
        (c.withCanvas a.command (Edit.render (c.config.resolveOutput path))).run w = (r₁, w') ∧
        faultOf (r₀.mapError (Fault.inCommand d.name)) =
          faultOf (r₁.mapError (Fault.inCommand d.name)) := by
      rcases Eval.bind_cases h₁ with ⟨u, w₂, hw, h₂⟩ | ⟨fault, hw, rfl⟩
      · cases h₂
        exact ⟨.ok u, hw, rfl⟩
      · exact ⟨.error fault, hw, rfl⟩
    rw [ho]
    rcases Eval.withCanvas_cases hw with
      ⟨reason, rfl, rfl, hc⟩ | ⟨n, s, canvas, w₂, hn, hs, he, rfl⟩
    · exact .stray (.inl hd) hc a.command reason
    · obtain ⟨files, hr, rfl, ⟨rfl, rfl⟩ | ⟨fault, rfl, rfl⟩⟩ := Edit.render_cases he
      · have heffect := Effect.renders (a := a) hd hn hs _ hr
        simpa [World.setSlot, faultOf, Except.mapError] using heffect
      · have heffect := Effect.unrendered (a := a) hd hn hs _ hr
        simpa [World.setSlot, faultOf, Except.mapError] using heffect
  · obtain ⟨hpath, rfl⟩ := Eval.of_ofExcept hp
    exact .pathless hd hpath

/-- Setting and reading a variable fail only for want of a name. -/
theorem effect_of_named (hd : d.action = .setVariable ∨ d.action = .getVariable)
    {f : String → Eval String}
    (hf : ∀ name r w₁ w₂, (f name).run w₁ = (r, w₂) →
      (∃ text, r = .ok text) ∧ w₂.slots = w₁.slots)
    {r : Except Fault String}
    (h : (Eval.inCommand d.name (Eval.ofExcept (a.string "Name") >>= f)).run w = (r, w')) :
    Effect c d a w (faultOf r) w' := by
  obtain ⟨r₀, hrun, rfl⟩ := Eval.inCommand_cases h
  rcases Eval.bind_cases hrun with ⟨name, w₁, hn, h₁⟩ | ⟨fault, hn, rfl⟩
  · rw [(Eval.of_ofExcept hn).2] at h₁
    obtain ⟨⟨text, rfl⟩, hs⟩ := hf _ _ _ _ h₁
    exact .variable hd hs nofun
  · obtain ⟨hname, rfl⟩ := Eval.of_ofExcept hn
    obtain ⟨expected, rfl⟩ := argument_of_string hname
    refine .variable hd rfl fun fault hf => ?_
    cases hf
    exact ⟨expected, "", rfl⟩

/-- What every own step does. -/
theorem effect_of_acts {o : Option Fault} (h : Acts c d a w o w') : Effect c d a w o w' := by
  cases h with
  | resolved run hh h =>
    cases hd : d.action with
    | setVariable =>
      rw [hd] at hh
      cases hh
      refine effect_of_named (.inl hd) (fun name r w₁ w₂ h₁ => ?_) h
      cases h₁
      exact ⟨⟨_, rfl⟩, rfl⟩
    | getVariable =>
      rw [hd] at hh
      cases hh
      refine effect_of_named (.inr hd) (fun name r w₁ w₂ h₁ => ?_) h
      cases h₁
      exact ⟨⟨_, rfl⟩, rfl⟩
    | renderCanvas =>
      rw [hd] at hh
      cases hh
      exact effect_of_renderCanvas hd h
    | createCanvas | addArc | addCircle | addEllipse | addEllipseImage | addText | createOutline
    | loadFont =>
      rw [hd] at hh
      cases hh
  | canvas run hh h =>
    obtain ⟨f, hf, hcarries⟩ := exists_change_of_handler hh
    exact effect_of_change hf (hcarries a) h

/-! ## Own steps that complete -/

theorem canvases_of_change {action : Action} {f : Arguments → Change}
    (hf : action.change? = some f) : action.canvases = 0 := by
  cases action with
  | createCanvas => cases hf
  | setVariable | getVariable | renderCanvas | addArc | addCircle | addEllipse | addEllipseImage
  | addText | createOutline | loadFont => rfl

/-- A change adds what its action says. -/
theorem advances_of_change {action : Action} {f : Arguments → Change}
    (hf : action.change? = some f) {canvas canvas' : Canvas} {ids ids' : IdSupply}
    (h : f a canvas ids = .ok (canvas', ids')) : Advances action canvas canvas' := by
  cases action with
  | setVariable | getVariable | createCanvas | renderCanvas => cases hf
  | addArc | addCircle | addEllipse | addEllipseImage | addText =>
    cases hf
    exact advances_layerChange rfl rfl h
  | createOutline =>
    cases hf
    exact advances_outlineChange h
  | loadFont =>
    cases hf
    exact advances_fontChange h

theorem changes_of_effect (h : Effect c d a w none w') : Changes d.action c.canvas? w w' := by
  generalize ho : (none : Option Fault) = o at h
  cases h with
  | «variable» hd hs =>
    rcases hd with hd | hd
    · rw [hd]
      exact .keeps rfl rfl rfl hs
    · rw [hd]
      exact .keeps rfl rfl rfl hs
  | changes hd hn hs hf =>
    exact .edits (canvases_of_change hd) _ _ _ hn hs (advances_of_change hd hf) rfl
  | @renders hd n s hn hs path files hr =>
    have hadvances : Advances .renderCanvas s.canvas s.canvas.markRendered :=
      ⟨⟨[], (List.append_nil _).symm, rfl⟩, rfl⟩
    rw [hd]
    exact .edits rfl n s _ hn hs hadvances rfl
  | pathless | stray | refuses | unrendered => cases ho

theorem Performs.acts (h : Performs c d a w w') : Acts c d a w none w' := by
  cases h with
  | resolved run hh text h =>
    exact .resolved (r := .ok text) run hh (Eval.run_inCommand d.name h)
  | canvas run hh u h => exact .canvas (r := .ok u) run hh (Eval.run_inCommand d.name h)

/-- Each own step that completes does what its action says. -/
theorem changes_of_performs (h : Performs c d a w w') : Changes d.action c.canvas? w w' :=
  changes_of_effect (effect_of_acts h.acts)

end CanvasScript.Standard
