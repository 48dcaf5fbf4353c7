import CanvasScript.Proofs.Run.Eval
import CanvasScript.Proofs.Run.Visibility
import Mathlib.Data.List.Basic

/-!
# What contexts share

The contexts of a tree share variables and canvases. Each of them works on a canvas of its own
choice, or on the one that it found when it was made.

* `Step`: what can be done in one context; `Session.perform` does it.
* `History`: how a tree of contexts has been used; `History.session`, the tree itself.
* `History.value?`, `History.canvases`, `History.held?`: what is stored, what canvases there are,
  and which of them a context works on, as the history tells it.
* `Follows`: a session is what the history tells.
* `Shared`: what this means for steps in the contexts of a tree.

Results:
* `Follows.perform`: every step keeps a session in accord with its history.
* `history_shared`: variables and canvases are shared by all contexts, whatever was done in them.
-/

namespace CanvasScript.Run

open Canvas Command Settings

variable {α β : Type} {n : Nat}

/-! ## Steps -/

/-- A change of a canvas that may fail. What it did to the canvas stays done. -/
def Edit.ofChange (change : Canvas → Except Fault β × Canvas) : Edit β := fun (c, w) =>
  let (r, c) := change c
  (r, (c, w))

/-- What can be done in one context; changes of a canvas give values of type `β`. -/
inductive Step (β : Type) where
  | get (name : String)
  | set (name : String) (v : Value)
  | openCanvas (c : Canvas)
  | withCanvas (command : String) (change : Canvas → Except Fault β × Canvas)
  | canvases
  | loadScoped (parent : String)

/-- What a step gives. -/
inductive Answer (β : Type) where
  | done
  | value (v? : Option Value)
  | canvases (cs : List Canvas)
  | result (r : Except Fault β)

/-- A step in the context with a number. -/
def Session.perform (s : Session α) (i : Nat) : Step β → Answer β × Session α
  | .get name =>
    let (v?, s) := s.act i (·.get? name)
    (.value v?, s)
  | .set name v => (.done, (s.act i (·.set name v)).2)
  | .openCanvas c => (.done, s.openCanvas i c)
  | .withCanvas command change =>
    let (r, s) := s.act i fun c => (c.withCanvas command (Edit.ofChange change)).run
    (.result r, s)
  | .canvases =>
    let (cs, s) := s.act i (·.canvases)
    (.canvases cs, s)
  | .loadScoped parent => (.done, (s.loadScoped i parent).2)

/-! ## Histories -/

/-- How a tree of contexts has been used; `n` contexts have been copied from others. -/
inductive History (β : Type) : Nat → Type where
  | root : History β 0
  /-- One more context, a copy of context `i`. -/
  | extend {n : Nat} (h : History β n) (i : Fin (n + 1)) : History β (n + 1)
  /-- A step in context `i`. -/
  | perform {n : Nat} (h : History β n) (i : Fin (n + 1)) (step : Step β) : History β n

namespace History

/-- The tree of contexts, over a registry and some settings. -/
def session (r : Registry α) (config : Config) (files : Storage.FileSystem) (ids : IdSupply) :
    {n : Nat} → History β n → Session α
  | _, root => Session.start r config { files, ids }
  | _, extend h i => ((h.session r config files ids).extend i).2
  | _, perform h i step => ((h.session r config files ids).perform i step).2

/-- What was last stored under a name, in whichever context. -/
def value? : {n : Nat} → History β n → String → Option Value
  | _, root, _ => none
  | _, extend h _, name => h.value? name
  | _, perform h _ step, name =>
    match step with
    | .set name' v => if name = name' then some v else h.value? name
    | _ => h.value? name

/-- The number of canvases that have been opened. -/
def opened : {n : Nat} → History β n → Nat
  | _, root => 0
  | _, extend h _ => h.opened
  | _, perform h _ step =>
    match step with
    | .openCanvas _ => h.opened + 1
    | _ => h.opened

/-- The canvas that a context works on: the one that was last opened in it, or else the one that the
context it is a copy of worked on when the copy was made. -/
def held? : {n : Nat} → History β n → Fin (n + 1) → Option Nat
  | _, root, _ => none
  | _, extend h i, j => Fin.lastCases (h.held? i) h.held? j
  | _, perform h i step, j =>
    match step with
    | .openCanvas _ => if j = i then some h.opened else h.held? j
    | _ => h.held? j

/-- The canvases in the order in which they were opened, in whichever contexts, each with all the
changes that were made to it. -/
def canvases : {n : Nat} → History β n → List Canvas
  | _, root => []
  | _, extend h _ => h.canvases
  | _, perform h i step =>
    match step with
    | .openCanvas c => h.canvases ++ [c]
    | .withCanvas _ change =>
      match h.held? i with
      | some m => h.canvases.modify m fun c => (change c).2
      | none => h.canvases
    | _ => h.canvases

theorem length_canvases (h : History β n) : h.canvases.length = h.opened := by
  induction h with
  | root => rfl
  | extend h i ih => exact ih
  | perform h i step ih =>
    cases step with
    | openCanvas c => rw [canvases, opened, List.length_append, ih, List.length_singleton]
    | withCanvas command change =>
      have hlength : (h.perform i (.withCanvas command change)).canvases.length =
          h.canvases.length := by
        rw [canvases]
        split
        · exact List.length_modify ..
        · rfl
      exact hlength.trans ih
    | get | set | canvases | loadScoped => exact ih

/-- A context works on a canvas that has been opened. -/
theorem held?_lt {h : History β n} {j : Fin (n + 1)} {m : Nat} (hm : h.held? j = some m) :
    m < h.opened := by
  induction h with
  | root => cases hm
  | extend h i ih =>
    cases j using Fin.lastCases with
    | last =>
      rw [held?, Fin.lastCases_last] at hm
      exact ih hm
    | cast j =>
      rw [held?, Fin.lastCases_castSucc] at hm
      exact ih hm
  | perform h i step ih =>
    cases step with
    | openCanvas c =>
      rw [held?] at hm
      rw [opened]
      split at hm
      · cases hm
        exact Nat.lt_succ_self _
      · exact Nat.lt_succ_of_lt (ih hm)
    | get | set | withCanvas | canvases | loadScoped => exact ih hm

end History

/-! ## Canvases that are not being edited -/

/-- The canvases, none of which is being edited. -/
def resting (cs : List Canvas) : List Slot :=
  cs.map fun c => { canvas := c }

theorem run_withCanvas_of_none (command : String) (edit : Edit β) (w : World) :
    (Eval.withCanvas none command edit).run w =
      (.error (.scope command "no canvas is open in this context"), w) :=
  rfl

theorem run_withCanvas_of_some {w : World} {m : Nat} {c : Canvas}
    (h : w.slots[m]? = some { canvas := c }) (command : String)
    (change : Canvas → Except Fault β × Canvas) :
    (Eval.withCanvas (some m) command (Edit.ofChange change)).run w =
      ((change c).1, { w with slots := w.slots.set m { canvas := (change c).2 } }) := by
  unfold ExceptT.run Eval.withCanvas
  rw [Option.bind_some, h]
  simp [Edit.ofChange, ExceptT.run, World.setSlot, List.set_set]

theorem Session.perform_withCanvas (s : Session α) (i : Nat) (command : String)
    (change : Canvas → Except Fault β × Canvas) :
    s.perform i (.withCanvas command change) =
      (.result ((Eval.withCanvas (s.context i).canvas? command
          (Edit.ofChange change)).run s.world).1,
        { s with world := ((Eval.withCanvas (s.context i).canvas? command
          (Edit.ofChange change)).run s.world).2 }) :=
  rfl

theorem set_resting {cs : List Canvas} {m : Nat} {c : Canvas} (h : cs[m]? = some c)
    (change : Canvas → Canvas) :
    (resting cs).set m { canvas := change c } = resting (cs.modify m change) := by
  rw [List.modify_eq_set_getElem?, h, resting, resting, ← List.map_set]
  rfl

/-! ## Sessions and histories -/

/-- The session is what the history tells. -/
structure Follows (s : Session α) (h : History β n) : Prop where
  length : s.extensions.length = n
  value : ∀ name, s.world.get? name = h.value? name
  slots : s.world.slots = resting h.canvases
  held : ∀ j : Fin (n + 1), (s.context j).canvas? = h.held? j

namespace Follows

variable {s : Session α} {h : History β n}

theorem extend (hs : Follows s h) (i : Fin (n + 1)) : Follows (s.extend i).2 (h.extend i) where
  length := by
    rw [Session.extend, List.length_append, hs.length, List.length_singleton]
  value := hs.value
  slots := hs.slots
  held := by
    intro j
    cases j using Fin.lastCases with
    | last =>
      have hcontext := Session.context_extend_last hs.length i
      rw [History.held?, Fin.lastCases_last, ← hs.held]
      exact congrArg _ hcontext
    | cast j =>
      have hcontext := Session.context_extend_castSucc hs.length i j
      rw [History.held?, Fin.lastCases_castSucc, ← hs.held]
      exact congrArg _ hcontext

theorem set (hs : Follows s h) (i : Fin (n + 1)) (name : String) (v : Value) :
    Follows (s.act i (·.set name v)).2 (h.perform i (.set name v)) where
  length := hs.length
  value := by
    intro name'
    have hset : (s.act i (·.set name v)).2.world = s.world.set name v := rfl
    rw [History.value?, ← hs.value, hset, World.get?_set]
  slots := hs.slots
  held := hs.held

theorem openCanvas (hs : Follows s h) (i : Fin (n + 1)) (c : Canvas) :
    Follows (s.openCanvas i c) (h.perform i (.openCanvas c)) := by
  let opening : Session α := { s with world := s.world.addCanvas c }
  let own : Context α := { s.context i with canvas? := some s.world.slots.length }
  have hopen : s.openCanvas i c = opening.setContext own i := rfl
  have hopened : s.world.slots.length = h.opened := by
    rw [hs.slots, resting, List.length_map, h.length_canvases]
  rw [hopen]
  refine ⟨?_, fun name => ?_, ?_, fun j => ?_⟩
  · rw [Session.length_extensions_setContext]
    exact hs.length
  · rw [Session.world_setContext, History.value?]
    · exact hs.value name
    · nofun
  · rw [Session.world_setContext, History.canvases, resting, List.map_append]
    exact congrArg (· ++ _) hs.slots
  · have hlength : opening.extensions.length = n := hs.length
    rw [Session.context_setContext hlength, History.held?]
    split
    · exact congrArg some hopened
    · exact hs.held j

theorem loadScoped (hs : Follows s h) (i : Fin (n + 1)) (parent : String) :
    Follows (s.loadScoped i parent).2 (h.perform i (.loadScoped parent)) where
  length := (s.length_extensions_loadScoped i parent).trans hs.length
  value := by
    intro name
    rw [Session.loadScoped, Session.world_setContext]
    exact hs.value name
  slots := by
    rw [Session.loadScoped, Session.world_setContext]
    exact hs.slots
  held := by
    intro j
    rw [Session.context_loadScoped hs.length]
    split
    · rename_i hj
      subst hj
      exact hs.held j
    · exact hs.held j

/-- The canvas that a context works on is there. -/
theorem slot (hs : Follows s h) {j : Fin (n + 1)} {m : Nat} (hm : h.held? j = some m) :
    ∃ c, h.canvases[m]? = some c ∧ s.world.slots[m]? = some { canvas := c } := by
  have hlt : m < h.canvases.length := by
    rw [h.length_canvases]
    exact History.held?_lt hm
  refine ⟨h.canvases[m], List.getElem?_eq_getElem hlt, ?_⟩
  rw [hs.slots, resting, List.getElem?_map, List.getElem?_eq_getElem hlt]
  rfl

theorem perform_withCanvas_of_none (hs : Follows s h) {i : Fin (n + 1)} (hi : h.held? i = none)
    (command : String) (change : Canvas → Except Fault β × Canvas) :
    s.perform i (.withCanvas command change) =
      (.result (.error (.scope command "no canvas is open in this context")), s) := by
  have hnone : (s.context i).canvas? = none := (hs.held i).trans hi
  rw [Session.perform_withCanvas, hnone, run_withCanvas_of_none]

theorem perform_withCanvas_of_some (hs : Follows s h) {i : Fin (n + 1)} {m : Nat} {c : Canvas}
    (hi : h.held? i = some m) (hc : h.canvases[m]? = some c) (command : String)
    (change : Canvas → Except Fault β × Canvas) :
    s.perform i (.withCanvas command change) =
      (.result (change c).1, { s with world := { s.world with
        slots := s.world.slots.set m { canvas := (change c).2 } } }) := by
  have hsome : (s.context i).canvas? = some m := (hs.held i).trans hi
  obtain ⟨c', hc', hslot⟩ := hs.slot hi
  cases hc.symm.trans hc'
  rw [Session.perform_withCanvas, hsome, run_withCanvas_of_some hslot]

theorem withCanvas (hs : Follows s h) (i : Fin (n + 1)) (command : String)
    (change : Canvas → Except Fault β × Canvas) :
    Follows (s.perform i (.withCanvas command change)).2
      (h.perform i (.withCanvas command change)) := by
  cases hi : h.held? i with
  | none =>
    rw [hs.perform_withCanvas_of_none hi]
    refine ⟨hs.length, hs.value, ?_, hs.held⟩
    rw [History.canvases, hi]
    exact hs.slots
  | some m =>
    obtain ⟨c, hc, hslot⟩ := hs.slot hi
    rw [hs.perform_withCanvas_of_some hi hc]
    refine ⟨hs.length, hs.value, ?_, hs.held⟩
    rw [History.canvases, hi]
    exact (congrArg (List.set · m _) hs.slots).trans (set_resting hc fun c => (change c).2)

/-- What a context reads is what was last stored. -/
theorem perform_get (hs : Follows s h) (i : Nat) (name : String) :
    s.perform i (.get name : Step β) = (.value (h.value? name), s) :=
  congrArg (fun v? => (Answer.value v?, s)) (hs.value name)

/-- Every step keeps a session in accord with its history. -/
theorem perform (hs : Follows s h) (i : Fin (n + 1)) (step : Step β) :
    Follows (s.perform i step).2 (h.perform i step) := by
  cases step with
  | get | canvases => exact ⟨hs.length, hs.value, hs.slots, hs.held⟩
  | set name v => exact hs.set i name v
  | openCanvas c => exact hs.openCanvas i c
  | withCanvas command change => exact hs.withCanvas i command change
  | loadScoped parent => exact hs.loadScoped i parent

end Follows

theorem History.follows (h : History β n) (r : Registry α) (config : Config)
    (files : Storage.FileSystem) (ids : IdSupply) : Follows (h.session r config files ids) h := by
  induction h with
  | root => exact ⟨rfl, fun name => rfl, rfl, fun j => by rw [Fin.fin_one_eq_zero j]; rfl⟩
  | extend h i ih => exact ih.extend i
  | perform h i step ih => exact ih.perform i step

/-! ## Sharing -/

/-- What steps give and do in the contexts of a tree that has been used like this. -/
structure Shared (s : Session α) (h : History β n) : Prop where
  /-- Every context reads what was last stored, whichever context stored it. -/
  get : ∀ (i : Fin (n + 1)) name, s.perform i (.get name : Step β) = (.value (h.value? name), s)
  /-- Every context lists all canvases. -/
  canvases : ∀ i : Fin (n + 1), s.perform i (.canvases : Step β) = (.canvases h.canvases, s)
  /-- A context works on the canvas that it opened last, or else on that of its original. -/
  held : ∀ i : Fin (n + 1), (s.context i).canvas? = h.held? i
  canvas? : ∀ i : Fin (n + 1), s.canvas? i = (h.held? i).bind (h.canvases[·]?)
  /-- Without a canvas, nothing is changed. -/
  without : ∀ (i : Fin (n + 1)) command (change : Canvas → Except Fault β × Canvas),
    h.held? i = none → s.perform i (.withCanvas command change) =
      (.result (.error (.scope command "no canvas is open in this context")), s)
  /-- A canvas is changed for all contexts that work on it, and nothing else is. -/
  within : ∀ (i : Fin (n + 1)) command (change : Canvas → Except Fault β × Canvas) m,
    h.held? i = some m → ∃ c s', h.canvases[m]? = some c ∧
      s.perform i (.withCanvas command change) = (.result (change c).1, s') ∧
      (∀ j : Fin (n + 1),
        s'.canvas? j = if h.held? j = some m then some (change c).2 else s.canvas? j) ∧
      s'.world.canvases = h.canvases.set m (change c).2 ∧
      ∀ (j : Fin (n + 1)) name, s'.perform j (.get name : Step β) = (.value (h.value? name), s')

theorem Follows.canvases {s : Session α} {h : History β n} (hs : Follows s h) :
    s.world.canvases = h.canvases := by
  rw [World.canvases, hs.slots, resting, List.map_map]
  exact List.map_id _

theorem Follows.canvas? {s : Session α} {h : History β n} (hs : Follows s h) (j : Fin (n + 1)) :
    s.canvas? j = (h.held? j).bind (h.canvases[·]?) := by
  rw [Session.canvas?, hs.held, hs.slots]
  cases h.held? j with
  | none => rfl
  | some m => simp [resting, Function.comp_def]

/-- **Contexts share what they store and draw.** However a tree of contexts has grown from its root
and has been used, all its contexts have the same variables and list the same canvases, each of them
works on a canvas of its own choice, and a change of a canvas is seen by those that work on it. -/
theorem history_shared (r : Registry α) (config : Config) (files : Storage.FileSystem)
    (ids : IdSupply) (h : History β n) : Shared (h.session r config files ids) h := by
  have hs := h.follows r config files ids
  generalize h.session r config files ids = s at hs
  refine ⟨fun i name => hs.perform_get i name, fun i => ?_, hs.held, hs.canvas?,
    fun i command change hi => ?_, fun i command change m hi => ?_⟩
  · exact congrArg (fun cs => (Answer.canvases cs, s)) hs.canvases
  · exact hs.perform_withCanvas_of_none hi command change
  · obtain ⟨c, hc, -⟩ := hs.slot hi
    have hperform := hs.perform_withCanvas_of_some hi hc command change
    have hafter := hs.withCanvas i command change
    have hcanvases : (h.perform i (.withCanvas command change)).canvases =
        h.canvases.set m (change c).2 := by
      rw [History.canvases, hi]
      exact (List.modify_eq_set_getElem? ..).trans (by rw [hc]; rfl)
    rw [hperform] at hafter
    refine ⟨c, _, hc, hperform, fun j => ?_, ?_, fun j name => hafter.perform_get j name⟩
    · have hheld : (h.perform i (.withCanvas command change)).held? j = h.held? j := rfl
      rw [hafter.canvas?, hheld, hcanvases, hs.canvas?]
      cases h.held? j with
      | none => rfl
      | some k =>
        by_cases hk : k = m
        · subst hk
          have hlt := (List.getElem?_eq_some_iff.1 hc).1
          simp [hlt]
        · simp [hk, Ne.symm hk]
    · rw [hafter.canvases, hcanvases]

/-- A copy made before a canvas is opened does not work on it; one made later does, and a change
made there is seen in the original. -/
example (c : Canvas) :
    let before := ((History.root.extend 0).perform 0 (.openCanvas c)).extend 0
    let h : History Unit 2 := before.perform 2 (.withCanvas "$x" fun c => (.ok (), c.markRendered))
    let value? := fun j => (h.held? j).bind (h.canvases[·]?)
    [0, 1, 2].map value? = [some c.markRendered, none, some c.markRendered] := by
  rfl

end CanvasScript.Run
