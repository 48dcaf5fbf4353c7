import CanvasScript.Proofs.Run.Eval

/-!
# Edits as a whole

An edit is made of steps, and what they do to the canvas stays done. Whether a canvas is left as it
was when an edit fails is therefore a matter of their order: nothing that may fail can come behind
something that is done to the canvas.

* `Change`: what is to become of a canvas, or why nothing is.
* `Edit.CarriesOut`: an edit does all of a change, or nothing if the change is refused.

Results:
* `CarriesOut.ofExcept_bind`, `CarriesOut.canvas_bind`: an edit that is carried out as a whole may
  come behind a check, and behind a look at the canvas.
* `CarriesOut.modify`, `CarriesOut.draw_modify`: it ends with what is done to the canvas.
* `not_carriesOut_of_fault`: a check that comes too late.
* `Edit.run_render`, `Edit.render_cases`: a canvas that is rendered.
-/

namespace CanvasScript.Run

open Canvas Storage

variable {α : Type} {w w' : World} {c c' : Canvas} {ids : IdSupply} {fault : Fault}

/-- What is to become of a canvas and of the supply of identifiers, or why nothing is. -/
abbrev Change := Canvas → IdSupply → Except Fault (Canvas × IdSupply)

namespace Edit

/-- An edit does all of a change, and takes nothing but identifiers from the world; or it ends with
the fault for which the change is refused, and does nothing at all. -/
structure CarriesOut (e : Edit Unit) (f : Change) : Prop where
  done : ∀ {c c' : Canvas} {w : World} {ids : IdSupply}, f c w.ids = .ok (c', ids) →
    e.run (c, w) = (.ok (), (c', { w with ids }))
  refused : ∀ {c : Canvas} {w : World} {fault : Fault}, f c w.ids = .error fault →
    e.run (c, w) = (.error fault, (c, w))

namespace CarriesOut

variable {e : Edit Unit} {f : Change}

theorem cases (he : e.CarriesOut f) {r : Except Fault Unit} (h : e.run (c, w) = (r, (c', w'))) :
    (∃ ids, f c w.ids = .ok (c', ids) ∧ r = .ok () ∧ w' = { w with ids }) ∨
      ∃ fault, f c w.ids = .error fault ∧ r = .error fault ∧ c' = c ∧ w' = w := by
  cases hf : f c w.ids with
  | ok made =>
    rw [he.done hf] at h
    cases h
    exact .inl ⟨_, rfl, rfl, rfl⟩
  | error fault =>
    rw [he.refused hf] at h
    cases h
    exact .inr ⟨_, rfl, rfl, rfl, rfl⟩

/-! ## Steps in front -/

/-- Where a check fails, nothing has been done yet. -/
theorem ofExcept_bind {x : Except Fault α} {g : α → Edit Unit} {f : α → Change}
    (h : ∀ a, (g a).CarriesOut (f a)) :
    (ofExcept x >>= g).CarriesOut fun c ids => x >>= fun a => f a c ids := by
  cases x with
  | ok a => exact ⟨(h a).done, (h a).refused⟩
  | error fault =>
    refine ⟨nofun, fun hf => ?_⟩
    cases hf
    rfl

/-- A look at the canvas finds it as it was to begin with. -/
theorem canvas_bind {g : Canvas → Edit Unit} {f : Canvas → Change}
    (h : ∀ c, (g c).CarriesOut (f c)) : (canvas >>= g).CarriesOut fun c ids => f c c ids :=
  ⟨fun hf => (h _).done hf, fun hf => (h _).refused hf⟩

/-! ## The last steps -/

theorem modify (m : Canvas → Canvas) :
    (modify m).CarriesOut fun c ids => .ok (m c, ids) := by
  refine ⟨fun hf => ?_, nofun⟩
  cases hf
  rfl

/-- What is put on the canvas may need identifiers, so long as these are all that can be missing. -/
theorem draw_modify (d : IdSupply → Except Fault (α × IdSupply)) (m : α → Canvas → Canvas) :
    (draw d >>= fun a => Edit.modify (m a)).CarriesOut fun c ids =>
      d ids >>= fun made => .ok (m made.1 c, made.2) := by
  refine ⟨fun {c c' w ids} hf => ?_, fun {c w fault} hf => ?_⟩
  · obtain ⟨made, hd, hf⟩ := of_bind_ok hf
    cases hf
    have hrun : (draw d).run (c, w) = (.ok made.1, (c, { w with ids := made.2 })) := by
      unfold ExceptT.run draw
      simp only [hd]
    rw [Stateful.run_bind_of_ok hrun]
    rfl
  · rcases bind_eq_error_iff.1 hf with hd | ⟨made, -, hf⟩
    · have hrun : (draw d).run (c, w) = (.error fault, (c, w)) := by
        unfold ExceptT.run draw
        simp only [hd]
      exact Stateful.run_bind_of_error hrun
    · cases hf

end CarriesOut

/-- A canvas that is changed before a check fails stays changed, and no change says this. -/
theorem not_carriesOut_of_fault {m : Canvas → Canvas} (hm : m c ≠ c) (w : World) (fault : Fault)
    (f : Change) : ¬ (Edit.modify m >>= fun _ => ofExcept (.error fault)).CarriesOut f := by
  intro he
  rcases he.cases (c := c) (w := w) rfl with ⟨ids, -, hr, -⟩ | ⟨fault, -, -, hc, -⟩
  · cases hr
  · exact hm hc

/-! ## Rendering -/

theorem run_save {s : Picture.Saving α} {r : Except Fault α} {files : FileSystem}
    (h : s.run w.files = (r, files)) (c : Canvas) :
    (save s).run (c, w) = (r, (c, { w with files })) := by
  unfold ExceptT.run save
  dsimp only
  rw [h]

/-- A canvas counts as rendered once it is saved, since nothing comes behind that. -/
theorem run_render {p : FilePath} {r : Except Fault Unit} {files : FileSystem}
    (h : (Picture.saveCanvas c p).run w.files = (r, files)) :
    (render p).run (c, w) =
      (r, (if r.toOption.isSome then c.markRendered else c, { w with files })) := by
  have hcanvas : canvas.run (c, w) = (.ok c, (c, w)) := rfl
  have hsave := run_save h c
  unfold render
  rw [Stateful.run_bind_of_ok hcanvas]
  cases r with
  | error fault => exact Stateful.run_bind_of_error hsave
  | ok u =>
    rw [Stateful.run_bind_of_ok hsave]
    rfl

/-- Rendering takes nothing but files from the world, and counts if it succeeds. -/
theorem render_cases {p : FilePath} {r : Except Fault Unit}
    (h : (render p).run (c, w) = (r, (c', w'))) :
    ∃ files, (Picture.saveCanvas c p).run w.files = (r, files) ∧ w' = { w with files } ∧
      ((r = .ok () ∧ c' = c.markRendered) ∨ ∃ fault, r = .error fault ∧ c' = c) := by
  rcases hs : (Picture.saveCanvas c p).run w.files with ⟨r₁, files⟩
  rw [run_render hs] at h
  cases h
  cases r with
  | error fault => exact ⟨files, rfl, rfl, .inr ⟨fault, rfl, rfl⟩⟩
  | ok u => exact ⟨files, rfl, rfl, .inl ⟨rfl, rfl⟩⟩

end Edit

end CanvasScript.Run
