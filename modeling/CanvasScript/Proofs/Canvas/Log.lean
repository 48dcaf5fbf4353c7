import CanvasScript.Proofs.Canvas.WellFormed
import Mathlib.Data.List.Induction

/-!
# Canvases and what was done to them

A canvas is the sum of what was done to it: nothing is lost, nothing is there that was not added,
and its status tells the furthest stage it has come to.

* `Operation`: what can be done to a canvas; `Operation.apply` does it, and `afterAll` does one
  after the other.
* `Operation.layers`, `Operation.outline?`, `Operation.font?`: what an operation adds.
* `lastNamed`: the last one of some things that have a name.
* `Reflects`: a canvas is what the log of its operations tells.

Results:
* `Operation.apply_eq`: what one operation does to each part of a canvas.
* `find?_keep`: things that are kept by name are found as the last ones of their names.
* `Reflects.apply`: one more operation, one more entry of the log.
* `reflects_afterAll`: every canvas is what its log tells.
-/

namespace CanvasScript.Canvas

/-! ## The last one of a name -/

section Named

variable {β : Type} (name : β → String)

/-- The last one of some things that have a name. -/
def lastNamed (things : List β) (k : String) : Option β :=
  (things.filter (name · = k)).getLast?

/-- One more thing kept in a map under its own name, if there is one. -/
def keep (m : KeyMap String β) : Option β → KeyMap String β
  | some x => m.insert (name x) x
  | none => m

/-- A map that has the last things of all names has them still when one more thing is kept. -/
theorem find?_keep {m : KeyMap String β} {things : List β}
    (h : ∀ k, m.find? k = lastNamed name things k) (more? : Option β) (k : String) :
    (keep name m more?).find? k = lastNamed name (things ++ more?.toList) k := by
  cases more? with
  | none =>
    rw [Option.toList_none, List.append_nil]
    exact h k
  | some x =>
    rw [keep, KeyMap.find?_insert, h, lastNamed, lastNamed, List.filter_append,
      List.getLast?_append]
    by_cases hx : name x = k
    · simp [hx]
    · simp [hx, Ne.symm hx]

end Named

/-! ## Operations -/

/-- What can be done to a canvas. -/
inductive Operation where
  | addLayer (l : Layer)
  | addLayers (ls : List Layer)
  | createOutline (o : Outline)
  | loadFont (f : Font)
  | markRendered

/-- Layers put on top one by one stand on top as a whole. -/
theorem addLayers_eq (c : Canvas) (ls : List Layer) :
    c.addLayers ls = { c with
      layers := c.layers ++ ls
      status := if ls.isEmpty then c.status else c.status.touched } := by
  induction ls generalizing c with
  | nil =>
    rw [List.append_nil]
    rfl
  | cons l ls ih =>
    have hcons : c.addLayers (l :: ls) = (c.addLayer l).addLayers ls := rfl
    have htouched : c.status.touched.touched = c.status.touched := by
      cases c.status <;> rfl
    rw [hcons, ih, addLayer, touch_eq, htouched]
    simp

namespace Operation

/-- The canvas behind an operation. -/
def apply (c : Canvas) : Operation → Canvas
  | addLayer l => c.addLayer l
  | addLayers ls => c.addLayers ls
  | createOutline o => c.createOutline o
  | loadFont f => c.loadFont f
  | markRendered => c.markRendered

/-- The layers that are added, from below. -/
def layers : Operation → List Layer
  | addLayer l => [l]
  | addLayers ls => ls
  | createOutline _ | loadFont _ | markRendered => []

/-- The outline that is created. -/
def outline? : Operation → Option Outline
  | createOutline o => some o
  | _ => none

/-- The font that is loaded. -/
def font? : Operation → Option Font
  | loadFont f => some f
  | _ => none

/-- The canvas is rendered. -/
def renders : Operation → Bool
  | markRendered => true
  | _ => false

/-- Something is added to the canvas. -/
def adds (op : Operation) : Bool :=
  !op.layers.isEmpty || op.outline?.isSome || op.font?.isSome

/-- What an operation does to each part of a canvas. -/
theorem apply_eq (op : Operation) (c : Canvas) :
    op.apply c = { c with
      layers := c.layers ++ op.layers
      outlines := keep Outline.id c.outlines op.outline?
      fonts := keep Font.family c.fonts op.font?
      renders := c.renders + op.renders.toNat
      status :=
        if op.renders then .rendered else if op.adds then c.status.touched else c.status } := by
  cases op with
  | addLayer l =>
    rw [apply, Canvas.addLayer, touch_eq]
    rfl
  | addLayers ls =>
    rw [apply, addLayers_eq]
    cases ls <;> rfl
  | createOutline o =>
    rw [apply, Canvas.createOutline, touch_eq, layers, List.append_nil]
    rfl
  | loadFont f =>
    rw [apply, Canvas.loadFont, touch_eq, layers, List.append_nil]
    rfl
  | markRendered =>
    rw [apply, Canvas.markRendered, layers, List.append_nil]
    rfl

end Operation

/-! ## Logs -/

variable {c c' : Canvas} {log : List Operation}

/-- A canvas behind operations, the first one of the list done first. -/
def afterAll (c : Canvas) (log : List Operation) : Canvas :=
  log.foldl Operation.apply c

theorem afterAll_append (c : Canvas) (log more : List Operation) :
    c.afterAll (log ++ more) = (c.afterAll log).afterAll more :=
  List.foldl_append

/-- The stages in their order. -/
def Status.stage : Status → Nat
  | dimensioned => 0
  | populated => 1
  | rendered => 2

/-- The status that a log leads to. -/
def statusOf (log : List Operation) : Status :=
  if log.any Operation.renders then .rendered
  else if log.any Operation.adds then .populated
  else .dimensioned

/-- A status never goes back, whatever is done later. -/
theorem stage_statusOf_le (log more : List Operation) :
    (statusOf log).stage ≤ (statusOf (log ++ more)).stage := by
  unfold statusOf
  rw [List.any_append, List.any_append]
  cases log.any Operation.renders with
  | true => exact Nat.le_refl _
  | false =>
    cases log.any Operation.adds with
    | true => cases more.any Operation.renders <;> simp [Status.stage]
    | false => exact Nat.zero_le _

theorem statusOf_append_singleton (log : List Operation) (op : Operation) :
    statusOf (log ++ [op]) =
      if op.renders then .rendered
      else if op.adds then (statusOf log).touched else statusOf log := by
  unfold statusOf
  simp only [List.any_append, List.any_cons, List.any_nil, Bool.or_false]
  cases log.any Operation.renders <;> cases log.any Operation.adds <;> cases op.renders <;>
    cases op.adds <;> rfl

/-- The second canvas is the first one, which is new, with all that the log tells. -/
structure Reflects (c : Canvas) (log : List Operation) (c' : Canvas) : Prop where
  frame : c'.id = c.id ∧ c'.width = c.width ∧ c'.height = c.height
  layers : c'.layers = log.flatMap Operation.layers
  /-- A layer is found by its identifier, the first one that was added with it. -/
  layer : ∀ id, c'.layer? id = ((log.flatMap Operation.layers).filter (·.id = id)).head?
  /-- An outline is found by its name, the last one that was created with it. -/
  outline : ∀ id, c'.outline? id = lastNamed Outline.id (log.filterMap Operation.outline?) id
  /-- No other outlines are kept. -/
  outlines : ∀ e, e ∈ c'.outlines.toList ↔
    lastNamed Outline.id (log.filterMap Operation.outline?) e.1 = some e.2
  /-- A font is found by its family, the last one that was loaded for it. -/
  font : ∀ family, c'.font? family = lastNamed Font.family (log.filterMap Operation.font?) family
  /-- No other fonts are kept. -/
  fonts : ∀ e, e ∈ c'.fonts.toList ↔
    lastNamed Font.family (log.filterMap Operation.font?) e.1 = some e.2
  renders : c'.renders = log.countP Operation.renders
  status : c'.status = statusOf log

/-- On a new canvas nothing has been done. -/
theorem reflects_blank (id : String) (width height : Nat) :
    Reflects { id, width, height } [] { id, width, height } where
  frame := ⟨rfl, rfl, rfl⟩
  layers := rfl
  layer _ := rfl
  outline _ := rfl
  outlines _ := ⟨nofun, nofun⟩
  font _ := rfl
  fonts _ := ⟨nofun, nofun⟩
  renders := rfl
  status := rfl

/-- One more operation, one more entry of the log. -/
theorem Reflects.apply (h : Reflects c log c') (op : Operation) :
    Reflects c (log ++ [op]) (op.apply c') := by
  have hlayers : c'.layers ++ op.layers = (log ++ [op]).flatMap Operation.layers := by
    rw [h.layers, List.flatMap_append, List.flatMap_singleton]
  have houtline : ∀ id, (keep Outline.id c'.outlines op.outline?).find? id =
      lastNamed Outline.id ((log ++ [op]).filterMap Operation.outline?) id := by
    intro id
    rw [find?_keep Outline.id h.outline, List.filterMap_append]
    cases op <;> rfl
  have hfont : ∀ family, (keep Font.family c'.fonts op.font?).find? family =
      lastNamed Font.family ((log ++ [op]).filterMap Operation.font?) family := by
    intro family
    rw [find?_keep Font.family h.font, List.filterMap_append]
    cases op <;> rfl
  rw [op.apply_eq]
  refine ⟨h.frame, hlayers, fun id => ?_, houtline, fun e => ?_, hfont, fun e => ?_, ?_, ?_⟩
  · rw [layer?, hlayers, List.head?_filter]
    rfl
  · rw [KeyMap.mem_toList_iff, houtline]
  · rw [KeyMap.mem_toList_iff, hfont]
  · rw [h.renders, List.countP_append, List.countP_singleton]
    cases op.renders <;> rfl
  · rw [h.status, statusOf_append_singleton]

/-- What is made is a new canvas of the size that was asked for. -/
theorem exists_id_of_make {width height : Nat} {ids ids' : IdSupply}
    (h : make width height ids = .ok (c, ids')) : ∃ id, c = { id, width, height } := by
  obtain ⟨_, -, h⟩ := of_bind_ok h
  obtain ⟨_, -, h⟩ := of_bind_ok h
  cases h
  exact ⟨_, rfl⟩

/-- Operations on a new canvas, told by their log. -/
theorem reflects_of_blank (id : String) (width height : Nat) (log : List Operation) :
    Reflects { id, width, height } log (afterAll { id, width, height } log) := by
  induction log using List.reverseRecOn with
  | nil => exact reflects_blank id width height
  | append_singleton log op ih =>
    rw [afterAll_append]
    exact ih.apply op

/-- **A canvas is what its log tells**: behind any operations on a new canvas, in any order, it has
the layers that were added, the last outline and the last font of every name, and as many renders as
there were; it is still the same canvas of the same size, and its status has never gone back. -/
theorem reflects_afterAll {width height : Nat} {ids ids' : IdSupply}
    (h : make width height ids = .ok (c, ids')) (log : List Operation) :
    c.width = width ∧ c.height = height ∧ Reflects c log (c.afterAll log) ∧
      ∀ before after, log = before ++ after →
        (c.afterAll before).status.stage ≤ (c.afterAll log).status.stage := by
  obtain ⟨id, rfl⟩ := exists_id_of_make h
  refine ⟨rfl, rfl, reflects_of_blank id width height log, ?_⟩
  rintro before after rfl
  rw [(reflects_of_blank id width height before).status,
    (reflects_of_blank id width height (before ++ after)).status]
  exact stage_statusOf_le before after

/-- Something is added again under each name, and to a canvas that was rendered already. -/
theorem reflects_afterAll_again :
    let ids : IdSupply := { stamp := fun _ => 0, digit := fun _ _ => 0 }
    let dot := fun id radius => (⟨id, 0, 0, .circle radius {}, none⟩ : Layer)
    let log : List Operation :=
      [.addLayers [dot "a" 1, dot "b" 2], .createOutline { id := "edge" }, .markRendered,
        .addLayer (dot "a" 3), .createOutline { id := "edge", stroke := 2 }, .addLayers []]
    ∃ c ids', make 600 200 ids = .ok (c, ids') ∧ c.width = 600 ∧ Reflects c log (c.afterAll log) ∧
      (c.afterAll log).layer? "a" = some (dot "a" 1) ∧
      (c.afterAll log).outline? "edge" = some { id := "edge", stroke := 2 } ∧
      (c.afterAll log).renders = 1 ∧ (c.afterAll log).status = .rendered := by
  intro ids dot log
  have hmake : make 600 200 ids = .ok (_, _) := rfl
  obtain ⟨hwidth, -, hreflects, -⟩ := reflects_afterAll hmake log
  refine ⟨_, _, hmake, hwidth, hreflects, ?_, ?_, hreflects.renders, hreflects.status⟩
  · exact hreflects.layer "a"
  · exact (hreflects.outline "edge").trans (by decide +kernel)

end CanvasScript.Canvas
