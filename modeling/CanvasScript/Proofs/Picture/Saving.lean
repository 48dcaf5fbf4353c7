import CanvasScript.Picture.Saving
import CanvasScript.Proofs.Fault

/-!
# What can go wrong with pictures

Painting reads fonts and images from files, and saving writes a file. What goes wrong with them is
reported as a fault of the picture, or of the directory for it.

* `SavingFaultsAre`: every fault that a step can end with, in any file system, is of a certain kind.

Results:
* `faultsAre_renderImage`: a picture that cannot be painted.
* `savingFaultsAre_saveCanvas`: a canvas that cannot be saved.
-/

namespace CanvasScript.Picture

open Canvas Storage

/-! ## Painting -/

theorem faultsAre_loadFont (fs : FileSystem) (f : Font) :
    FaultsAre Fault.OfPicture (loadFont fs f) := by
  unfold loadFont
  split
  · split
    · exact .ok _
    · exact .error (.render _)
  · exact .error (.render _)

theorem faultsAre_loadFonts (fs : FileSystem) (fonts : List Font) (known : Typefaces) :
    FaultsAre Fault.OfPicture (loadFonts fs fonts known) := by
  induction fonts generalizing known with
  | nil => exact .ok known
  | cons f rest ih => exact (faultsAre_loadFont fs f).bind fun t _ => ih _

theorem faultsAre_loadSource (fs : FileSystem) (source : String) :
    FaultsAre Fault.OfPicture (loadSource fs source) := by
  have hpath : FaultsAre Fault.OfPicture (sourcePath source) := by
    unfold sourcePath
    dsimp only
    split
    · exact .error (.render _)
    · split <;> exact .ok _
  refine hpath.bind fun path _ => ?_
  split
  · exact .ok _
  · exact .error (.render _)

theorem faultsAre_fetch (fs : FileSystem) (known : Sources) (source : String) :
    FaultsAre Fault.OfPicture (fetch fs known source) := by
  unfold fetch
  split
  · exact .ok _
  · exact (faultsAre_loadSource fs source).bind fun i _ => .ok _

theorem faultsAre_requireTypeface (faces : Typefaces) (family : String) :
    FaultsAre Fault.OfPicture (requireTypeface faces family) := by
  unfold requireTypeface
  split
  · exact .ok _
  · exact .error (.render _)

/-- Only images and texts need something that may not be there. -/
theorem faultsAre_paintLayer (fs : FileSystem) (faces : Typefaces) (known : Sources)
    (image : Image) (l : Layer) :
    FaultsAre Fault.OfPicture (paintLayer fs faces known image l) := by
  unfold paintLayer
  cases l.shape with
  | arc | circle | ellipse => exact .ok _
  | ellipseImage size source => exact (faultsAre_fetch fs known source).bind fun i _ => .ok _
  | text font => exact (faultsAre_requireTypeface faces font).bind fun t _ => .ok _

theorem faultsAre_paintLayers (fs : FileSystem) (faces : Typefaces) (layers : List Layer)
    (known : Sources) (image : Image) :
    FaultsAre Fault.OfPicture (paintLayers fs faces layers known image) := by
  induction layers generalizing known image with
  | nil => exact .ok image
  | cons l ls ih => exact (faultsAre_paintLayer fs faces known image l).bind fun p _ => ih p.2 p.1

theorem faultsAre_renderImage (fs : FileSystem) (c : Canvas) :
    FaultsAre Fault.OfPicture (renderImage fs c) :=
  (faultsAre_loadFonts fs _ _).bind fun faces _ => faultsAre_paintLayers fs faces _ _ _

/-! ## Saving -/

/-- Every fault that the step can end with has the property, whatever files there are. -/
def SavingFaultsAre {β : Type} (P : Fault → Prop) (s : Saving β) : Prop :=
  ∀ fs, FaultsAre P (s.run fs).1

theorem SavingFaultsAre.bind {β γ : Type} {P : Fault → Prop} {s : Saving β} {f : β → Saving γ}
    (hs : SavingFaultsAre P s) (hf : ∀ b, SavingFaultsAre P (f b)) :
    SavingFaultsAre P (s >>= f) := by
  intro fs
  have hfirst := hs fs
  unfold ExceptT.run at hfirst ⊢
  simp only [Bind.bind, ExceptT.bind, ExceptT.mk, StateT.bind]
  cases hrun : s fs with
  | mk r fs' =>
    rw [hrun] at hfirst
    cases r with
    | error fault => exact .error (hfirst fault rfl)
    | ok b => exact hf b fs'

theorem savingFaultsAre_ofStoring {β : Type} {report : SystemFault → Fault}
    (hr : ∀ e, (report e).OfPicture) (s : FileSystem.Storing β) :
    SavingFaultsAre Fault.OfPicture (Saving.ofStoring report s) := by
  intro fs
  unfold ExceptT.run Saving.ofStoring
  split
  · exact .ok _
  · exact .error (hr _)

theorem savingFaultsAre_makeParent (p : FilePath) :
    SavingFaultsAre Fault.OfPicture (Saving.makeParent p) := by
  unfold Saving.makeParent
  split
  · split
    · exact fun fs => .ok ()
    · exact savingFaultsAre_ofStoring (fun _ => .file _ _) _
  · exact fun fs => .ok ()

theorem savingFaultsAre_saveImage (image : Image) (p : FilePath) :
    SavingFaultsAre Fault.OfPicture (saveImage image p) :=
  (savingFaultsAre_makeParent p).bind fun _ => savingFaultsAre_ofStoring (fun _ => .render _) _

/-- Painting and saving a canvas fails for want of fonts, images, or a place for the file. -/
theorem savingFaultsAre_saveCanvas (c : Canvas) (p : FilePath) :
    SavingFaultsAre Fault.OfPicture (saveCanvas c p) := by
  intro fs
  have hpaint := faultsAre_renderImage fs c
  unfold ExceptT.run saveCanvas
  split
  · exact savingFaultsAre_saveImage _ p fs
  · rename_i fault hf
    exact .error (hpaint fault hf)

end CanvasScript.Picture
