import CanvasScript.Standard.Layers

/-!
# Commands for outlines and fonts

* `opacity`, `strokeWidth`: numbers in the range of what they measure.
* `createOutline`: an outline that later layers can name.
* `loadFont`: a font that text layers can name.
-/

namespace CanvasScript.Standard

open Canvas Command Run

/-- The argument `Alpha` in percent. -/
def opacity (a : Arguments) : Except Fault Nat := do
  let n ← a.integer "Alpha"
  if 0 ≤ n ∧ n ≤ 100 then .ok n.toNat
  else .error (.argument a.command "Alpha between 0 and 100" (toString n))

/-- The outline that the arguments describe. -/
def outline (a : Arguments) : Except Fault Outline := do
  let alpha ← opacity a
  let stroke ← size a "Stroke"
  let id ← a.string "ID"
  let kind ← OutlineKind.parse (← a.string "Type")
  let colour ← a.colour "Color"
  Outline.make { id, kind, colour, alpha, stroke }

/-- The font that the arguments describe. -/
def font (a : Arguments) : Except Fault Font := do
  let family ← a.string "Family"
  let path ← a.string "Path"
  let weight ← FontWeight.parse (← a.string "Weight")
  Font.make { family, path := ⟨path⟩, weight }

/-- An outline on the canvas, in the place of any with its name. -/
def createOutline (a : Arguments) : Edit Unit := do
  let outline ← Edit.ofExcept (outline a)
  Edit.modify fun c => c.createOutline outline

/-- A font on the canvas, in the place of any of its family. -/
def loadFont (a : Arguments) : Edit Unit := do
  let font ← Edit.ofExcept (font a)
  Edit.modify fun c => c.loadFont font

end CanvasScript.Standard
