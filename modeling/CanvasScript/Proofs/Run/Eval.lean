import CanvasScript.Proofs.Command.Registry
import CanvasScript.Run.Evaluation

/-!
# Steps of an evaluation

What is known of a step once it has ended, with a fault or without one.

* `World.get?_set`: what a variable is once another one has been set, or the same.
* `Eval.bind_cases`, `Eval.inCommand_cases`: steps made of others.
* `Eval.makeCanvas_cases`: a canvas made. `Eval.run_openCanvas`: a context that works on a new one.
* `Eval.withCanvas_cases`: a canvas edited. `Edit.CarriesOut.cases` and `Edit.render_cases` say what
  becomes of it.
* `delayAll_eq_map`: the arguments of a call, made ready one by one.
-/

namespace CanvasScript.Run

open Command Canvas Storage

variable {α β : Type} {w w' : World}

/-! ## Variables -/

theorem World.get?_set (w : World) (name name' : String) (v : Value) :
    (w.set name v).get? name' = if name' = name then some v else w.get? name' := by
  simp only [get?, set, KeyMap.find?_insert, Std.compare_eq_iff_eq]

namespace Eval

/-! ## Steps made of others -/

theorem run_bind (e : Eval α) (f : α → Eval β) (w : World) :
    (e >>= f).run w =
      match e.run w with
      | (.ok a, w₁) => (f a).run w₁
      | (.error fault, w₁) => (.error fault, w₁) := by
  unfold ExceptT.run
  simp only [bind, ExceptT.bind, ExceptT.mk, StateT.bind]
  cases e w with
  | mk r w₁ => cases r <;> rfl

/-- A step made of two ends with the second one, or with a fault of the first one. -/
theorem bind_cases {e : Eval α} {f : α → Eval β} {r : Except Fault β}
    (h : (e >>= f).run w = (r, w')) :
    (∃ a w₁, e.run w = (.ok a, w₁) ∧ (f a).run w₁ = (r, w')) ∨
      ∃ fault, e.run w = (.error fault, w') ∧ r = .error fault :=
  Stateful.bind_cases h

@[simp] theorem run_ofExcept (x : Except Fault α) (w : World) : (ofExcept x).run w = (x, w) :=
  rfl

theorem of_ofExcept {x r : Except Fault α} (h : (ofExcept x).run w = (r, w')) :
    x = r ∧ w' = w := by
  cases h
  exact ⟨rfl, rfl⟩

/-- A fault is attributed, and nothing else is changed. -/
theorem inCommand_cases {e : Eval α} {name : String} {r : Except Fault α}
    (h : (e.inCommand name).run w = (r, w')) :
    ∃ r₀, e.run w = (r₀, w') ∧ r = r₀.mapError (Fault.inCommand name) := by
  unfold ExceptT.run inCommand at h
  split at h <;>
  · rename_i he
    cases h
    exact ⟨_, he, rfl⟩

theorem run_inCommand {e : Eval α} (name : String) {r : Except Fault α} (h : e.run w = (r, w')) :
    (e.inCommand name).run w = (r.mapError (Fault.inCommand name), w') := by
  unfold ExceptT.run inCommand
  rw [h]
  cases r <;> rfl

theorem of_inCommand {e : Eval α} {name : String} {a : α}
    (h : (e.inCommand name).run w = (.ok a, w')) : e.run w = (.ok a, w') := by
  obtain ⟨r₀, he, hr⟩ := inCommand_cases h
  cases r₀ with
  | error fault => cases hr
  | ok a₀ =>
    cases hr
    exact he

/-! ## Canvases -/

/-- A canvas is made with one more identifier, or refused. -/
theorem makeCanvas_cases {width height : Nat} {r : Except Fault Canvas}
    (h : (makeCanvas width height).run w = (r, w')) :
    (∃ c ids, Canvas.make width height w.ids = .ok (c, ids) ∧ r = .ok c ∧ w' = { w with ids }) ∨
      ∃ fault, Canvas.make width height w.ids = .error fault ∧ r = .error fault ∧ w' = w := by
  rcases bind_cases h with ⟨w₁, w₂, hg, h⟩ | ⟨fault, hg, rfl⟩
  · cases hg
    rcases bind_cases h with ⟨⟨c, ids⟩, w₂, hm, h⟩ | ⟨fault, hm, rfl⟩
    · obtain ⟨hmake, rfl⟩ := of_ofExcept hm
      cases h
      exact .inl ⟨c, ids, hmake, rfl, rfl⟩
    · obtain ⟨hmake, rfl⟩ := of_ofExcept hm
      exact .inr ⟨fault, hmake, rfl, rfl⟩
  · cases hg

theorem run_openCanvas (c : Context α) (canvas : Canvas) (f : Context α → Eval β) (w : World) :
    ((liftM (c.openCanvas canvas) : Eval (Context α)) >>= f).run w =
      (f { c with canvas? := some w.slots.length }).run (w.addCanvas canvas) :=
  rfl

/-- An edit finds no canvas, or one that is busy, or puts another one in its place. -/
theorem withCanvas_cases {handle? : Option Nat} {command : String} {edit : Edit α}
    {r : Except Fault α} (h : (withCanvas handle? command edit).run w = (r, w')) :
    (∃ reason, r = .error (.scope command reason) ∧ w' = w ∧
        ∀ n s, handle? = some n → w.slots[n]? = some s → s.busy = true) ∨
      ∃ n s c w₁, handle? = some n ∧ w.slots[n]? = some s ∧
        edit.run (s.canvas, w.setSlot n { s with busy := true }) = (r, (c, w₁)) ∧
        w' = w₁.setSlot n { canvas := c } := by
  unfold ExceptT.run withCanvas at h
  split at h
  · rename_i hnone
    cases h
    refine .inl ⟨_, rfl, rfl, fun n s hn hs => ?_⟩
    rw [hn, Option.bind_some, hs] at hnone
    cases hnone
  rename_i n s hsome
  obtain ⟨n', hn, hs⟩ := Option.bind_eq_some_iff.1 hsome
  obtain ⟨s', hslot, hs⟩ := Option.map_eq_some_iff.1 hs
  cases hs
  split at h
  · rename_i hbusy
    cases h
    refine .inl ⟨_, rfl, rfl, fun n' s' hn' hs' => ?_⟩
    cases hn.symm.trans hn'
    cases hslot.symm.trans hs'
    exact hbusy
  · split at h
    rename_i r' c w₁ he
    cases h
    exact .inr ⟨n, s, c, w₁, hn, hslot, he, rfl⟩

end Eval

/-! ## Arguments -/

theorem delayAll_eq_map [Behaviour α] (as : List (Script.Argument Script.Location)) :
    (delayAll as : List (Delayed α)) = as.map delay := by
  induction as with
  | nil => rfl
  | cons a as ih => rw [delayAll, ih, List.map_cons]

end CanvasScript.Run
