import CanvasScript.Proofs.Run.Edit
import CanvasScript.Standard.Action

/-!
# The edits of the standard commands

Each standard command that adds to a canvas looks at all of its arguments, and does to the canvas
what it does in its last step. It is therefore told by a change, as a whole.

* `layerChange`, `outlineChange`, `fontChange`: a layer, an outline and a font added.
* `Action.change?`: the change that an action stands for.

Results:
* `carriesOut_addLayer`, `carriesOut_createOutline`, `carriesOut_loadFont`: the commands make these
  changes, or leave everything as it was.
* `exists_change_of_handler`, `exists_handler_of_change`: the actions that edit a canvas are those
  that stand for a change, and carry it out.
-/

namespace CanvasScript.Standard

open Canvas Command Run

/-! ## Changes -/

/-- A layer of the shape that the arguments describe on top, with the outline that they name. -/
def layerChange (shape : Arguments → Except Fault Shape) (a : Arguments) : Change :=
  fun c ids => do
    let shape ← shape a
    let x ← coordinate a "X"
    let y ← coordinate a "Y"
    let (l, ids) ← Layer.make (a.string? "ID") x y shape (namedOutline? c a) ids
    return (c.addLayer l, ids)

/-- The outline that the arguments describe. -/
def outlineChange (a : Arguments) : Change := fun c ids => do
  return (c.createOutline (← outline a), ids)

/-- The font that the arguments describe. -/
def fontChange (a : Arguments) : Change := fun c ids => do
  return (c.loadFont (← font a), ids)

/-- The change of the canvas that an action stands for. -/
def Action.change? : Action → Option (Arguments → Change)
  | addArc => some (layerChange arc)
  | addCircle => some (layerChange circle)
  | addEllipse => some (layerChange ellipse)
  | addEllipseImage => some (layerChange ellipseImage)
  | addText => some (layerChange lettering)
  | createOutline => some outlineChange
  | loadFont => some fontChange
  | _ => none

/-! ## Edits -/

/-- The layer is put on the canvas after its shape, its place and its measures are checked. -/
theorem carriesOut_addLayer (shape : Arguments → Except Fault Shape) (a : Arguments) :
    (addLayer shape a).CarriesOut (layerChange shape a) :=
  .ofExcept_bind fun s => .ofExcept_bind fun x => .ofExcept_bind fun y => .canvas_bind fun c =>
    .draw_modify (Layer.make (a.string? "ID") x y s (namedOutline? c a)) fun l c => c.addLayer l

theorem carriesOut_createOutline (a : Arguments) : (createOutline a).CarriesOut (outlineChange a) :=
  .ofExcept_bind fun o => .modify fun c => c.createOutline o

theorem carriesOut_loadFont (a : Arguments) : (loadFont a).CarriesOut (fontChange a) :=
  .ofExcept_bind fun f => .modify fun c => c.loadFont f

variable {action : Action}

/-- What edits a canvas stands for a change, and carries it out. -/
theorem exists_change_of_handler {run : Arguments → Edit Unit}
    (h : (action.handler : Handler Action) = .canvas run) :
    ∃ f, action.change? = some f ∧ ∀ a, (run a).CarriesOut (f a) := by
  cases action with
  | setVariable | getVariable | createCanvas | renderCanvas => cases h
  | addArc | addCircle | addEllipse | addEllipseImage | addText =>
    cases h
    exact ⟨_, rfl, carriesOut_addLayer _⟩
  | createOutline =>
    cases h
    exact ⟨_, rfl, carriesOut_createOutline⟩
  | loadFont =>
    cases h
    exact ⟨_, rfl, carriesOut_loadFont⟩

/-- What stands for a change edits a canvas. -/
theorem exists_handler_of_change {f : Arguments → Change} (hf : action.change? = some f) :
    ∃ run, (action.handler : Handler Action) = .canvas run ∧ ∀ a, (run a).CarriesOut (f a) := by
  obtain ⟨run, hrun⟩ : ∃ run, (action.handler : Handler Action) = .canvas run := by
    cases action with
    | setVariable | getVariable | createCanvas | renderCanvas => cases hf
    | addArc | addCircle | addEllipse | addEllipseImage | addText | createOutline | loadFont =>
      exact ⟨_, rfl⟩
  obtain ⟨f', hf', hcarries⟩ := exists_change_of_handler hrun
  cases hf.symm.trans hf'
  exact ⟨run, hrun, hcarries⟩

end CanvasScript.Standard
