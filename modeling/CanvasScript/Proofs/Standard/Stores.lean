import CanvasScript.Proofs.Standard.Calls
import CanvasScript.Proofs.Standard.Variables

/-!
# What a variable holds in the end

Several calls of a script can store a text under one name. Which of them comes last is not only a
question of where they stand: the code of a canvas is put off until all other arguments of the call
are evaluated, those behind it, which no parameter takes, among them.

* `Stores`: an evaluation comes to a call that stores a text under a name.
* `Postponed`: a call stands in the code of a canvas, another one in a surplus argument behind it.
* `Precedes`: of two calls, the first one ends before the other one does, unless it is put off.

Results:
* `Runs.accounted`: an own step stores the text of its call, or changes no variable.
* `Arrives.runs`: an evaluation that completes carries out every call that it comes to.
* `Stores.keyOf_name`: a call that stores names the command.
* `Runs.pairwise_order`, `Runs.sublist_of_postponed`: calls are carried out in the order of
  `Precedes`.
* `precedes_iff`: without surplus arguments, that is the order in which they end.
* `evaluateScript_stores`: a variable holds the text of the last call that stores one.
-/

namespace CanvasScript.Standard

open Canvas Command Run Script Settings

variable {c c' : Context Action} {d : Definition Action} {a : Arguments} {t : Task}
  {w w' w₁ : World} {js : List Entry} {site : Site Location} {x v : String}

/-! ## Own steps -/

theorem run_of_performs {run : Context Action → Arguments → Eval String}
    (hh : d.action.handler = .resolved run) (h : Performs c d a w w') :
    ∃ text, (run c a).run w = (.ok text, w') := by
  cases h with
  | resolved run' hh' text h =>
    cases hh.symm.trans hh'
    exact ⟨text, h⟩
  | canvas run' hh' u h => cases hh.symm.trans hh'

theorem exists_name {f : String → Eval String} {text : String}
    (h : (Eval.ofExcept (a.string "Name") >>= f).run w = (.ok text, w')) :
    ∃ x, a.string "Name" = .ok x := by
  rcases Eval.bind_cases h with ⟨x, w₁, hx, -⟩ | ⟨fault, -, hf⟩
  · exact ⟨x, (Eval.of_ofExcept hx).1⟩
  · cases hf

theorem bindings_of_setVariable (hd : d.action = .setVariable) (h : Performs c d a w w') :
    ∃ x, a.string "Name" = .ok x ∧
      w'.bindings = w.bindings.insert x (.string ((a.string? "Value").getD "")) := by
  obtain ⟨text, hrun⟩ := run_of_performs (congrArg Action.handler hd) h
  obtain ⟨x, hx⟩ := exists_name hrun
  cases hrun.symm.trans (run_setVariable hx c w)
  exact ⟨x, hx, rfl⟩

theorem bindings_of_getVariable (hd : d.action = .getVariable) (h : Performs c d a w w') :
    w'.bindings = w.bindings := by
  obtain ⟨text, hrun⟩ := run_of_performs (congrArg Action.handler hd) h
  obtain ⟨x, hx⟩ := exists_name hrun
  cases hrun.symm.trans (run_getVariable hx c w)
  rfl

/-- Only one of the commands changes variables. -/
theorem bindings_of_performs (hd : d.action ≠ .setVariable) (h : Performs c d a w w') :
    w'.bindings = w.bindings := by
  by_cases hget : d.action = .getVariable
  · exact bindings_of_getVariable hget h
  have heffect := effect_of_acts h.acts
  generalize ho : (none : Option Fault) = o at heffect
  cases heffect with
  | «variable» hvariable =>
    rcases hvariable with hset | hget'
    · exact absurd hset hd
    · exact absurd hget' hget
  | changes | renders => rfl
  | pathless | stray | refuses | unrendered => cases ho

theorem bindings_of_opening {inner : Context Action} (h : (opening c d a).run w = (.ok inner, w')) :
    w'.bindings = w.bindings := by
  rcases opening_cases h with ⟨fault, -, hr, -⟩ | ⟨width, height, id, ids, -, -, rfl⟩
  · cases hr
  · rfl

/-! ## Commands by their actions -/

/-- The command that creates a canvas. -/
def creating : Definition Action := canvases[0]

theorem creating_mem : creating ∈ definitions :=
  List.mem_append_right _ (.head _)

theorem storing_mem_definitions : storing ∈ definitions :=
  List.mem_append_left _ storing_mem

/-- No two standard commands have an action in common. -/
theorem action_eq_iff {d' : Definition Action} (hd : d ∈ definitions) (hd' : d' ∈ definitions) :
    d.action = d'.action ↔ d.key = d'.key := by
  have h : ∀ d ∈ definitions, ∀ d' ∈ definitions, d.action = d'.action ↔ d.key = d'.key := by
    decide +kernel
  exact h d hd d' hd'

/-! ## Calls that store -/

/-- Evaluating a task comes to a call that stores a text under a name. -/
def Stores (c : Context Action) (t : Task) (w : World) (site : Site Location) (x v : String) :
    Prop :=
  ∃ (c' : Context Action) (as : List (Argument Location)) (d : Definition Action)
    (raws : List String) (a : Arguments) (w₀ w₁ : World),
    Arrives c t w c' (.call site.name as site.span) w₀ ∧ c'.lookup? site.name = some d ∧
      d.action = .setVariable ∧ Resolves c' d as w₀ (.ok raws) w₁ ∧ d.validate raws = .ok a ∧
      a.string "Name" = .ok x ∧ (a.string? "Value").getD "" = v

/-- What evaluating a part of a task comes to, evaluating the task comes to. -/
theorem Stores.imp {t' : Task}
    (h : ∀ {c'' n w''}, Arrives c' t' w' c'' n w'' → Arrives c t w c'' n w'')
    (hs : Stores c' t' w' site x v) : Stores c t w site x v := by
  obtain ⟨c'', as, d, raws, a, w₀, w₁, harrives, hs⟩ := hs
  exact ⟨c'', as, d, raws, a, w₀, w₁, h harrives, hs⟩

/-- An entry sets a variable to a text. -/
def Entry.Sets (j : Entry) (x v : String) : Prop :=
  j.after.bindings = j.before.bindings.insert x (.string v)

theorem Entry.Sets.get?_eq {j : Entry} (h : j.Sets x v) : j.after.get? x = some (.string v) := by
  rw [World.get?, h, KeyMap.find?_insert, if_pos Std.ReflCmp.compare_self]

theorem Entry.Sets.get?_of_ne {j : Entry} (h : j.Sets x v) {y : String} (hy : y ≠ x) :
    j.after.get? y = j.before.get? y := by
  rw [World.get?, h, KeyMap.find?_insert, if_neg (by simpa using hy)]
  rfl

/-- An entry stores the text of its call, or is not there to store one and leaves the variables
alone. -/
def Accounted (c : Context Action) (t : Task) (w : World) (j : Entry) : Prop :=
  (∃ x v, Stores c t w j.site x v ∧ j.Sets x v) ∨
    j.command.action ≠ .setVariable ∧ j.after.bindings = j.before.bindings

theorem Accounted.imp {t' : Task} {j : Entry}
    (h : ∀ {c'' n w''}, Arrives c' t' w' c'' n w'' → Arrives c t w c'' n w'')
    (hj : Accounted c' t' w' j) : Accounted c t w j := by
  rcases hj with ⟨x, v, hstores, hsets⟩ | hkeeps
  · exact .inl ⟨x, v, hstores.imp h, hsets⟩
  · exact .inr hkeeps

/-- Every entry is accounted for. -/
theorem Runs.accounted (h : Runs c t w js w') : ∀ j ∈ js, Accounted c t w j := by
  induction h with
  | text | mention | nil | done =>
    intro j hj
    cases hj
  | @call c w w₁ w₂ name as span d a js hd hargs hv hp ih =>
    obtain ⟨raws, hr, hvalid⟩ := validate_ok_iff.1 hv
    have hargsAccounted : ∀ j ∈ js, Accounted c (.node (.call name as span)) w j :=
      fun j hj => (ih j hj).imp (.argument rfl hd)
    refine List.forall_mem_append.2 ⟨hargsAccounted, List.forall_mem_singleton.2 ?_⟩
    by_cases hset : d.action = .setVariable
    · obtain ⟨x, hx, hbindings⟩ := bindings_of_setVariable hset hp
      exact .inl ⟨x, _, ⟨c, as, d, raws, a, w, w₁, .here, hd, hset, hr, hvalid, hx, rfl⟩,
        hbindings⟩
    · exact .inr ⟨hset, bindings_of_performs hset hp⟩
  | @createCanvas c inner w w₁ w₂ w₃ name as span d a js js' hd ha hargs hv ho hcode ih ih' =>
    obtain ⟨raws, hr, hvalid⟩ := validate_ok_iff.1 hv
    have hne : d.action ≠ .setVariable := by
      rw [ha]
      nofun
    refine List.forall_mem_append.2 ⟨fun j hj => (ih j hj).imp (.argument rfl hd), ?_⟩
    refine List.forall_mem_cons.2 ⟨.inr ⟨hne, bindings_of_opening ho⟩, fun j hj => ?_⟩
    exact (ih' j hj).imp (.code rfl hd ha hr hvalid ho)
  | cons hn hns ih ih' =>
    obtain ⟨text, hrun⟩ := hn.completes
    exact List.forall_mem_append.2
      ⟨fun j hj => (ih j hj).imp .first, fun j hj => (ih' j hj).imp (.next hrun)⟩
  | script hs has ih => exact fun j hj => (ih j hj).imp (.script hs)
  | resolved hs ha has ih ih' =>
    obtain ⟨texts, hrun⟩ := ha.completes
    exact List.forall_mem_append.2
      ⟨fun j hj => (ih j hj).imp (.current hs), fun j hj => (ih' j hj).imp (.later hs hrun)⟩

/-! ## Every call that is come to has an entry -/

/-- A command that is called by a node that completes is called with brackets. -/
theorem Runs.eq_call {n : Node Location} {name : String} {as : List (Argument Location)}
    (h : Runs c (.node n) w js w') (hn : called? n = some (name, as))
    (hd : c.lookup? name = some d) : ∃ span, n = .call name as span := by
  cases h with
  | text => cases hn
  | mention hnone =>
    cases hn
    cases hd.symm.trans hnone
  | call | createCanvas =>
    cases hn
    exact ⟨_, rfl⟩

/-- What an evaluation that completes comes to completes too, and its entries are among the
others. -/
theorem Arrives.runs {n : Node Location} {w₀ : World} (h : Arrives c t w c' n w₀) :
    ∀ {js : List Entry} {w' : World}, Runs c t w js w' →
      ∃ js' w₁, Runs c' (.node n) w₀ js' w₁ ∧ js'.Sublist js := by
  induction h with
  | here => exact fun hr => ⟨_, _, hr, List.Sublist.refl _⟩
  | @argument c c' w w' n n' name as d hn hd h ih =>
    intro js w₁ hr
    obtain ⟨span, rfl⟩ := hr.eq_call hn hd
    cases hn
    cases hr with
    | call hd' hargs =>
      cases hd.symm.trans hd'
      obtain ⟨js', w₁, hrun, hsub⟩ := ih hargs
      exact ⟨js', w₁, hrun, hsub.trans (List.sublist_append_left ..)⟩
    | createCanvas hd' ha hargs =>
      cases hd.symm.trans hd'
      obtain ⟨js', w₁, hrun, hsub⟩ := ih hargs
      exact ⟨js', w₁, hrun, hsub.trans (List.sublist_append_left ..)⟩
  | code hn hd ha hr hv ho h ih =>
    intro js w₁ hruns
    obtain ⟨span, rfl⟩ := hruns.eq_call hn hd
    cases hn
    cases hruns with
    | call hd' hargs hv' hp =>
      cases hd.symm.trans hd'
      exact absurd ha (ne_createCanvas_of_performs hp)
    | createCanvas hd' ha' hargs hv' ho' hcode =>
      cases hd.symm.trans hd'
      cases hv'.symm.trans (validate_ok_iff.2 ⟨_, hr, hv⟩)
      cases ho.symm.trans ho'
      obtain ⟨js', w₁, hrun, hsub⟩ := ih hcode
      exact ⟨js', w₁, hrun, (hsub.cons _).trans (List.sublist_append_right ..)⟩
  | first h ih =>
    intro js w₁ hr
    cases hr with
    | cons hn hns =>
      obtain ⟨js', w₁, hrun, hsub⟩ := ih hn
      exact ⟨js', w₁, hrun, hsub.trans (List.sublist_append_left ..)⟩
  | next hn h ih =>
    intro js w₁ hr
    cases hr with
    | cons hn' hns =>
      obtain ⟨text, hrun'⟩ := hn'.completes
      cases hn.symm.trans hrun'
      obtain ⟨js', w₁, hrun, hsub⟩ := ih hns
      exact ⟨js', w₁, hrun, hsub.trans (List.sublist_append_right ..)⟩
  | script hs h ih =>
    intro js w₁ hr
    cases hr with
    | script hs' has => exact ih has
    | resolved hs' => cases hs.symm.trans hs'
  | current hs h ih =>
    intro js w₁ hr
    cases hr with
    | script hs' => cases hs.symm.trans hs'
    | resolved hs' ha has =>
      obtain ⟨js', w₁, hrun, hsub⟩ := ih ha
      exact ⟨js', w₁, hrun, hsub.trans (List.sublist_append_left ..)⟩
  | later hs ha h ih =>
    intro js w₁ hr
    cases hr with
    | script hs' => cases hs.symm.trans hs'
    | resolved hs' ha' has =>
      obtain ⟨texts, hrun'⟩ := ha'.completes
      cases ha.symm.trans hrun'
      obtain ⟨js', w₁, hrun, hsub⟩ := ih has
      exact ⟨js', w₁, hrun, hsub.trans (List.sublist_append_right ..)⟩

/-- A call that stores a text has an entry that sets the variable. -/
theorem Stores.exists_entry (h : Stores c t w site x v) (hr : Runs c t w js w') :
    ∃ j ∈ js, j.site = site ∧ j.command.action = .setVariable ∧ j.Sets x v := by
  obtain ⟨c', as, d, raws, a, w₀, w₁, harrives, hd, hset, hres, hv, hx, hvalue⟩ := h
  obtain ⟨js', w₂, hrun, hsub⟩ := harrives.runs hr
  cases hrun with
  | call hd' hargs hv' hp =>
    cases hd.symm.trans hd'
    cases hv'.symm.trans (validate_ok_iff.2 ⟨_, hres, hv⟩)
    obtain ⟨y, hy, hbindings⟩ := bindings_of_setVariable hset hp
    cases hx.symm.trans hy
    rw [hvalue] at hbindings
    have hmem := hsub.subset (List.mem_append_right _ (List.mem_singleton_self _))
    exact ⟨_, hmem, rfl, hset, hbindings⟩
  | createCanvas hd' ha =>
    cases hd.symm.trans hd'
    cases hset.symm.trans ha

/-- Only calls that name the command store a text. -/
theorem Stores.keyOf_name (h : Stores c t w site x v) (hr : Runs c t w js w') (hc : IsStandard c) :
    Definition.keyOf site.name = storing.key := by
  obtain ⟨j, hj, rfl, hset, -⟩ := h.exists_entry hr
  have hlawful := hr.lawful hc j hj
  exact hlawful.key.symm.trans
    ((action_eq_iff hlawful.standard storing_mem_definitions).1 hset)

/-! ## The last one -/

theorem exists_last {α : Type} {P : α → Prop} {l : List α} (h : ∃ b ∈ l, P b) :
    ∃ before b after, l = before ++ b :: after ∧ P b ∧ ∀ e ∈ after, ¬P e := by
  induction l with
  | nil =>
    obtain ⟨b, hb, -⟩ := h
    cases hb
  | cons e l ih =>
    by_cases hl : ∃ b ∈ l, P b
    · obtain ⟨before, b, after, rfl, hb, hafter⟩ := ih hl
      exact ⟨e :: before, b, after, rfl, hb, hafter⟩
    · obtain ⟨b, hb, hP⟩ := h
      rcases List.mem_cons.1 hb with rfl | hb
      · exact ⟨[], b, l, rfl, hP, fun b' hb' hP' => hl ⟨b', hb', hP'⟩⟩
      · exact absurd ⟨b, hb, hP⟩ hl

theorem Chained.of_append {js' : List Entry} (h : Chained w (js ++ js') w') :
    ∃ w₁, Chained w js w₁ ∧ Chained w₁ js' w' := by
  induction js generalizing w with
  | nil => exact ⟨w, rfl, h⟩
  | cons j js ih =>
    obtain ⟨hbefore, h⟩ := h
    obtain ⟨w₁, hfirst, hrest⟩ := ih h
    exact ⟨w₁, ⟨hbefore, hfirst⟩, hrest⟩

/-- What no entry changes is not changed at all. -/
theorem Chained.get?_eq (h : Chained w js w') (hk : ∀ j ∈ js, j.after.get? x = j.before.get? x) :
    w'.get? x = w.get? x := by
  induction js generalizing w with
  | nil =>
    cases h
    rfl
  | cons j js ih =>
    obtain ⟨hfirst, hrest⟩ := List.forall_mem_cons.1 hk
    obtain ⟨rfl, h⟩ := h
    exact (ih h hrest).trans hfirst

/-- A variable that is stored holds the text of the last entry that stores it. -/
theorem Runs.exists_last_store (hr : Runs c t w js w') (h : Stores c t w site x v) :
    ∃ before j after v, js = before ++ j :: after ∧ Stores c t w j.site x v ∧ j.Sets x v ∧
      w'.get? x = some (.string v) ∧
      ∀ site' v', Stores c t w site' x v' →
        site' = j.site ∧ v' = v ∨
          ∃ k ∈ before, k.site = site' ∧ k.command.action = .setVariable := by
  have hentry : ∃ j ∈ js, ∃ v, Stores c t w j.site x v ∧ j.Sets x v := by
    obtain ⟨j, hj, rfl, -, hsets⟩ := h.exists_entry hr
    exact ⟨j, hj, v, h, hsets⟩
  obtain ⟨before, j, after, rfl, ⟨v, hstores, hsets⟩, hlast⟩ := exists_last hentry
  have hvalue : w'.get? x = some (.string v) := by
    obtain ⟨w₁, -, -, hchained⟩ := hr.chained.of_append
    rw [hchained.get?_eq fun k hk => ?_, hsets.get?_eq]
    have hmem : k ∈ before ++ j :: after := List.mem_append_right _ (List.mem_cons_of_mem _ hk)
    rcases hr.accounted k hmem with ⟨x', v', hstores', hsets'⟩ | ⟨-, hkeeps⟩
    · refine hsets'.get?_of_ne ?_
      rintro rfl
      exact hlast k hk ⟨v', hstores', hsets'⟩
    · rw [World.get?, hkeeps]
      rfl
  refine ⟨before, j, after, v, rfl, hstores, hsets, hvalue, fun site' v' hstores' => ?_⟩
  obtain ⟨k, hk, rfl, hset, hsets'⟩ := hstores'.exists_entry hr
  rcases List.mem_append.1 hk with hk | hk
  · exact .inr ⟨k, hk, rfl, hset⟩
  rcases List.mem_cons.1 hk with rfl | hk
  · cases hsets.get?_eq.symm.trans hsets'.get?_eq
    exact .inl ⟨rfl, rfl⟩
  · exact absurd ⟨v', hstores', hsets'⟩ (hlast k hk)

/-! ## The order of calls -/

/-- The second call stands in an argument behind the code of a canvas, where no parameter takes it.
The first one, which stands in the code, is put off until it has been carried out. -/
def Postponed {π : Type} (ps : List (Script.Part π)) (s s' : Site π) : Prop :=
  ∃ name as span code surplus, Script.Part.call name as span ∈ ps ∧
    Definition.keyOf name = Definition.keyOf canvasScope ∧ as[2]? = some code ∧
    surplus ∈ as.drop 3 ∧ s ∈ Node.sites code.nodes ∧ s' ∈ Node.sites surplus.nodes

/-- The first call ends before the second one does. -/
def EndsBefore (s s' : Site Location) : Prop :=
  s.span.stop.offset < s'.span.stop.offset

/-- The first call is carried out before the second one: it ends before it in the script, but calls
that are put off come behind those that they are put off for. -/
def Precedes (ps : List (Script.Part Location)) (s s' : Site Location) : Prop :=
  Postponed ps s' s ∨ EndsBefore s s' ∧ ¬Postponed ps s s'

/-- The part is one of those that a task comes to. -/
def Task.Has (p : Script.Part Location) : Task → Prop
  | node n => p ∈ n.parts
  | nodes ns => p ∈ Node.partsAll ns
  | arguments d index as =>
    ∃ k a, as[k]? = some a ∧ takesScript d (index + k) = false ∧ p ∈ Node.partsAll a.nodes

variable {p : Script.Part Location} {ps : List (Script.Part Location)} {s s' : Site Location}
  {as : List (Argument Location)}

/-- As long as canvases have no surplus arguments, the order is that of the script. -/
theorem precedes_iff (h : ∀ name as span, Script.Part.call name as span ∈ ps →
      Definition.keyOf name = Definition.keyOf canvasScope → as.length ≤ 3) :
    Precedes ps s s' ↔ EndsBefore s s' := by
  have hnone : ∀ s s', ¬Postponed ps s s' := by
    rintro s s' ⟨name, as, span, code, surplus, hmem, hkey, -, hsurplus, -, -⟩
    rw [List.drop_eq_nil_of_le (h name as span hmem hkey)] at hsurplus
    cases hsurplus
  simp [Precedes, hnone]

theorem mem_partsAll_of_mem {b : Argument Location} (hb : b ∈ as) (hp : p ∈ Node.partsAll b.nodes) :
    p ∈ Argument.partsAll as := by
  obtain ⟨before, after, rfl⟩ := List.append_of_mem hb
  rw [Argument.partsAll_append, Argument.partsAll, Argument.parts_eq]
  simp [hp]

theorem exists_of_mem_partsAll (h : p ∈ Argument.partsAll as) (hp : ∀ b, p ≠ .argument b) :
    ∃ b ∈ as, p ∈ Node.partsAll b.nodes := by
  induction as with
  | nil => cases h
  | cons b as ih =>
    rw [Argument.partsAll, Argument.parts_eq, List.append_assoc] at h
    rcases List.mem_append.1 h with h | h
    · exact ⟨b, List.mem_cons_self, h⟩
    rcases List.mem_cons.1 h with h | h
    · exact absurd h (hp b)
    · obtain ⟨b', hb', h⟩ := ih h
      exact ⟨b', List.mem_cons_of_mem _ hb', h⟩

/-- The parts of resolved arguments and those of the code are parts of the call. -/
theorem Task.Has.of_arguments (h : Task.Has p (.arguments d 0 as)) :
    p ∈ Argument.partsAll as := by
  obtain ⟨k, b, hb, -, hp⟩ := h
  exact mem_partsAll_of_mem (List.mem_of_getElem? hb) hp

theorem Task.Has.head {index : Nat} {b : Argument Location} (hs : takesScript d index = false)
    (h : Task.Has p (.nodes b.nodes)) : Task.Has p (.arguments d index (b :: as)) :=
  ⟨0, b, rfl, hs, h⟩

theorem Task.Has.cons {index : Nat} {b : Argument Location}
    (h : Task.Has p (.arguments d (index + 1) as)) :
    Task.Has p (.arguments d index (b :: as)) := by
  obtain ⟨k, b', hb, hs, hp⟩ := h
  rw [Nat.add_assoc, Nat.add_comm 1 k] at hs
  exact ⟨k + 1, b', hb, hs, hp⟩

theorem Task.Has.of_cons {index : Nat} {b : Argument Location}
    (h : Task.Has p (.arguments d index (b :: as))) :
    takesScript d index = false ∧ p ∈ Node.partsAll b.nodes ∨
      Task.Has p (.arguments d (index + 1) as) := by
  obtain ⟨_ | k, b', hb, hs, hp⟩ := h
  · cases hb
    exact .inl ⟨hs, hp⟩
  · rw [Nat.add_comm k 1, ← Nat.add_assoc] at hs
    exact .inr ⟨k, b', hb, hs, hp⟩

theorem mem_partsAll_of_code (h : p ∈ Node.partsAll (codeOf d as)) :
    p ∈ Argument.partsAll as := by
  unfold codeOf at h
  cases hcode : codeArgument? d as with
  | none =>
    rw [hcode] at h
    cases h
  | some b =>
    rw [hcode] at h
    exact mem_partsAll_of_mem (mem_of_codeArgument? hcode) h

/-- What stands in the arguments of a call is come to when they are evaluated, or stands in the code
of a canvas. -/
theorem has_or_code (hd : d ∈ definitions) (h : p ∈ Argument.partsAll as)
    (hp : ∀ b, p ≠ .argument b) :
    Task.Has p (.arguments d 0 as) ∨
      d.action = .createCanvas ∧ p ∈ Node.partsAll (codeOf d as) := by
  obtain ⟨b, hmem, hpart⟩ := exists_of_mem_partsAll h hp
  obtain ⟨k, hb⟩ := List.mem_iff_getElem?.1 hmem
  cases hs : takesScript d k with
  | false => exact .inl ⟨k, b, hb, by rwa [Nat.zero_add], hpart⟩
  | true =>
    obtain ⟨ha, rfl⟩ := (takesScript_iff hd k).1 hs
    refine .inr ⟨ha, ?_⟩
    rw [codeOf, codeArgument?_eq hd ha, hb]
    exact hpart

/-- Surplus arguments are evaluated with the others, the code is not. -/
theorem surplus_and_code (hd : d ∈ definitions) (ha : d.action = .createCanvas)
    {code surplus : Argument Location} (h₂ : as[2]? = some code) (h₃ : surplus ∈ as.drop 3)
    (hs : s ∈ Node.sites code.nodes) (hs' : s' ∈ Node.sites surplus.nodes) :
    s' ∈ resolvedSites d 0 as ∧ s ∈ Node.sites (codeOf d as) := by
  rw [codeOf, codeArgument?_eq hd ha, h₂]
  refine ⟨?_, hs⟩
  obtain _ | ⟨a₀, _ | ⟨a₁, _ | ⟨code', as⟩⟩⟩ := as
  · cases h₂
  · cases h₂
  · cases h₂
  rw [resolvedSites_around_code hd ha]
  exact List.mem_append_right _ (List.mem_append_right _ (List.mem_flatMap.2 ⟨surplus, h₃, hs'⟩))

/-- A call in an argument of a canvas ends before those in the code, unless it stands behind it. -/
theorem ends_before_code (hd : d ∈ definitions) (ha : d.action = .createCanvas)
    (ho : (sitesOf as).Pairwise EndsBefore) (hs : s ∈ resolvedSites d 0 as)
    (hs' : s' ∈ Node.sites (codeOf d as)) :
    EndsBefore s s' ∨ ∃ code surplus, as[2]? = some code ∧ surplus ∈ as.drop 3 ∧
      s' ∈ Node.sites code.nodes ∧ s ∈ Node.sites surplus.nodes := by
  rw [codeOf, codeArgument?_eq hd ha] at hs'
  obtain _ | ⟨a₀, _ | ⟨a₁, _ | ⟨code, as⟩⟩⟩ := as
  · cases hs'
  · cases hs'
  · cases hs'
  have hs' : s' ∈ Node.sites code.nodes := hs'
  rw [resolvedSites_around_code hd ha] at hs
  have ho : (Node.sites a₀.nodes ++ (Node.sites a₁.nodes ++
      (Node.sites code.nodes ++ sitesOf as))).Pairwise EndsBefore := ho
  obtain ⟨-, ho, hfirst⟩ := List.pairwise_append.1 ho
  obtain ⟨-, ho, hsecond⟩ := List.pairwise_append.1 ho
  have hcode : s' ∈ Node.sites code.nodes ++ sitesOf as := List.mem_append_left _ hs'
  rcases List.mem_append.1 hs with hs | hs
  · exact .inl (hfirst s hs s' (List.mem_append_right _ hcode))
  rcases List.mem_append.1 hs with hs | hs
  · exact .inl (hsecond s hs s' hcode)
  · obtain ⟨surplus, hsurplus, hs⟩ := List.mem_flatMap.1 hs
    exact .inr ⟨code, surplus, rfl, hsurplus, hs', hs⟩

theorem Runs.site_mem (h : Runs c t w js w') (hc : IsStandard c) {j : Entry} (hj : j ∈ js) :
    j.site ∈ t.sites :=
  (h.perm_sites hc).subset (List.mem_map_of_mem hj)

/-- Of two calls that are carried out, the first one ends first, or the second one is put off. The
canvas that a call opens is there before its code is run, so nothing is said of these calls. -/
theorem Runs.pairwise_order (h : Runs c t w js w') (hc : IsStandard c)
    (hps : ∀ p, t.Has p → p ∈ ps) (ho : t.sites.Pairwise EndsBefore) :
    js.Pairwise fun j j' => j.command.action = .createCanvas ∨ EndsBefore j.site j'.site ∨
      Postponed ps j'.site j.site := by
  induction h with
  | text | mention | nil | done => exact .nil
  | @call c w w₁ w₂ name as span d a js hd hargs hv hp ih =>
    have hresolved := resolvedSites_eq (of_lookup? hc hd).1 (ne_createCanvas_of_performs hp) as
    rw [sites_call, ← hresolved] at ho
    obtain ⟨hargsOrder, -, hown⟩ := List.pairwise_append.1 ho
    refine List.pairwise_append.2 ⟨ih hc (fun p hp => hps p ?_) hargsOrder,
      List.pairwise_singleton _ _, fun j hj j' hj' => ?_⟩
    · exact List.mem_append_left _ hp.of_arguments
    · cases List.mem_singleton.1 hj'
      exact .inr (.inl (hown _ (hargs.site_mem hc hj) _ (List.mem_singleton_self _)))
  | @createCanvas c inner w w₁ w₂ w₃ name as span d a js js' hd ha hargs hv ho' hcode ih ih' =>
    obtain ⟨hmem, hkey⟩ := of_lookup? hc hd
    have hinner := isStandard_opening hc ha ho'
    rw [sites_call] at ho
    obtain ⟨hsites, -, hown⟩ := List.pairwise_append.1 ho
    have hargsOrder := ih hc (fun p hp => hps p (List.mem_append_left _ hp.of_arguments))
      (hsites.sublist (resolvedSites_sublist d 0 as))
    have hcodeOrder := ih' hinner
      (fun p hp => hps p (List.mem_append_left _ (mem_partsAll_of_code hp)))
      (hsites.sublist (codeOf_sublist d as))
    refine List.pairwise_append.2 ⟨hargsOrder,
      List.pairwise_cons.2 ⟨fun _ _ => .inl ha, hcodeOrder⟩, fun j hj j' hj' => .inr ?_⟩
    have hj := hargs.site_mem hc hj
    rcases List.mem_cons.1 hj' with rfl | hj'
    · exact .inl (hown _ ((resolvedSites_sublist d 0 as).subset hj) _ (List.mem_singleton_self _))
    have hj' := hcode.site_mem hinner hj'
    -- The arguments come first. What stands behind the code among them is what the code waits for.
    rcases ends_before_code hmem ha hsites hj hj' with hends | ⟨code, surplus, h₂, h₃, hs', hs⟩
    · exact .inl hends
    · have hcall := hps _ (List.mem_append_right _ (List.mem_singleton_self _))
      exact .inr ⟨name, as, span, code, surplus, hcall,
        hkey.symm.trans ((action_eq_iff hmem creating_mem).1 ha), h₂, h₃, hs', hs⟩
  | cons hn hns ih ih' =>
    rw [Task.sites, sites_cons] at ho
    obtain ⟨hfirst, hrest, hacross⟩ := List.pairwise_append.1 ho
    refine List.pairwise_append.2 ⟨ih hc (fun p hp => hps p (List.mem_append_left _ hp)) hfirst,
      ih' hc (fun p hp => hps p (List.mem_append_right _ hp)) hrest, fun j hj j' hj' => ?_⟩
    exact .inr (.inl (hacross _ (hn.site_mem hc hj) _ (hns.site_mem hc hj')))
  | script hs has ih =>
    rw [Task.sites, resolvedSites, if_pos hs] at ho
    exact ih hc (fun p hp => hps p hp.cons) ho
  | resolved hs ha has ih ih' =>
    rw [Task.sites, resolvedSites, if_neg (by simp [hs])] at ho
    obtain ⟨hfirst, hrest, hacross⟩ := List.pairwise_append.1 ho
    refine List.pairwise_append.2 ⟨ih hc (fun p hp => hps p (.head hs hp)) hfirst,
      ih' hc (fun p hp => hps p hp.cons) hrest, fun j hj j' hj' => ?_⟩
    exact .inr (.inl (hacross _ (ha.site_mem hc hj) _ (has.site_mem hc hj')))

/-- A call that is put off is carried out behind what it is put off for. -/
theorem Runs.sublist_of_postponed (h : Runs c t w js w') (hc : IsStandard c)
    (hps : ∀ p ∈ ps, t.Has p) (hp : Postponed ps s s') : [s', s].Sublist (js.map (·.site)) := by
  obtain ⟨name, as, span, code, surplus, hpart, hkey, h₂, h₃, hs, hs'⟩ := hp
  have hpart := hps _ hpart
  clear hps
  induction h with
  | text | nil => cases hpart
  | mention => cases List.mem_singleton.1 hpart
  | done =>
    obtain ⟨k, b, hb, -⟩ := hpart
    cases hb
  | @call c w w₁ w₂ name' as' span' d a js hd hargs hv hperforms ih =>
    obtain ⟨hmem, hname⟩ := of_lookup? hc hd
    have hne := ne_createCanvas_of_performs hperforms
    rw [List.map_append]
    refine List.Sublist.trans ?_ (List.sublist_append_left _ _)
    rcases List.mem_append.1 hpart with hpart | hpart
    · rcases has_or_code hmem hpart nofun with hpart | ⟨ha, -⟩
      · exact ih hc hpart
      · exact absurd ha hne
    · cases List.mem_singleton.1 hpart
      exact absurd ((action_eq_iff hmem creating_mem).2 (hname.trans hkey)) hne
  | @createCanvas c inner w w₁ w₂ w₃ name' as' span' d a js js' hd ha hargs hv ho hcode ih ih' =>
    obtain ⟨hmem, -⟩ := of_lookup? hc hd
    have hinner := isStandard_opening hc ha ho
    rw [List.map_append, List.map_cons]
    rcases List.mem_append.1 hpart with hpart | hpart
    · rcases has_or_code hmem hpart nofun with hpart | ⟨-, hpart⟩
      · exact (ih hc hpart).trans (List.sublist_append_left _ _)
      · exact ((ih' hinner hpart).cons _).trans (List.sublist_append_right _ _)
    · cases List.mem_singleton.1 hpart
      obtain ⟨hresolved, hcodeSite⟩ := surplus_and_code hmem ha h₂ h₃ hs hs'
      have hfirst : s' ∈ js.map (·.site) := (hargs.perm_sites hc).symm.subset hresolved
      have hsecond : s ∈ js'.map (·.site) := (hcode.perm_sites hinner).symm.subset hcodeSite
      exact (List.singleton_sublist.2 hfirst).append ((List.singleton_sublist.2 hsecond).cons _)
  | cons hn hns ih ih' =>
    rw [List.map_append]
    rcases List.mem_append.1 hpart with hpart | hpart
    · exact (ih hc hpart).trans (List.sublist_append_left _ _)
    · exact (ih' hc hpart).trans (List.sublist_append_right _ _)
  | script hscript has ih =>
    rcases hpart.of_cons with ⟨hresolved, -⟩ | hpart
    · cases hscript.symm.trans hresolved
    · exact ih hc hpart
  | resolved hresolved ha has ih ih' =>
    rw [List.map_append]
    rcases hpart.of_cons with ⟨-, hpart⟩ | hpart
    · exact (ih hc hpart).trans (List.sublist_append_left _ _)
    · exact (ih' hc hpart).trans (List.sublist_append_right _ _)

/-! ## Whole scripts -/

theorem not_sublist_of_nodup {α : Type} {l l' : List α} {b b' : α} (h : (l ++ l').Nodup)
    (hb : b ∈ l) (hb' : b' ∈ l') : ¬[b', b].Sublist (l ++ l') := by
  intro hsublist
  obtain ⟨-, -, hdisjoint⟩ := List.nodup_append.1 h
  obtain ⟨l₁, l₂, heq, h₁, h₂⟩ := List.sublist_append_iff.1 hsublist
  cases l₁ with
  | nil =>
    have hmem : b ∈ l₂ := by
      rw [← List.nil_append l₂, ← heq]
      exact List.mem_cons_of_mem _ (List.mem_singleton_self _)
    exact hdisjoint b hb b (h₂.subset hmem) rfl
  | cons e l₁ =>
    rw [List.cons_append, List.cons.injEq] at heq
    obtain ⟨rfl, -⟩ := heq
    exact hdisjoint b' (h₁.subset List.mem_cons_self) b' hb' rfl

/-- The entries of a script that stand before another one precede it. -/
theorem Runs.precedes {nodes : List (Node Location)} {before after : List Entry} {j k : Entry}
    (h : Runs c (.nodes nodes) w (before ++ j :: after) w') (hc : IsStandard c)
    (ho : (Node.sites nodes).Pairwise EndsBefore) (hk : k ∈ before)
    (hset : k.command.action ≠ .createCanvas) :
    Precedes (Node.partsAll nodes) k.site j.site ∧
      ¬Precedes (Node.partsAll nodes) j.site k.site := by
  have horder := h.pairwise_order hc (fun p (hp : p ∈ Node.partsAll nodes) => hp) ho
  have hmem : j ∈ j :: after := List.mem_cons_self
  have hforth : ¬Postponed (Node.partsAll nodes) k.site j.site := by
    intro hpostponed
    have hnodup : ((before ++ j :: after).map (·.site)).Nodup := by
      refine (h.perm_sites hc).nodup_iff.2 (ho.imp ?_)
      rintro s s' hends rfl
      exact Nat.lt_irrefl _ hends
    have hsublist := h.sublist_of_postponed hc (fun p hp => hp) hpostponed
    rw [List.map_append] at hnodup hsublist
    exact not_sublist_of_nodup hnodup (List.mem_map_of_mem hk) (List.mem_map_of_mem hmem) hsublist
  rcases (List.pairwise_append.1 horder).2.2 k hk j hmem with ha | hends | hback
  · exact absurd ha hset
  · refine ⟨.inr ⟨hends, hforth⟩, ?_⟩
    rintro (hpostponed | ⟨hends', -⟩)
    · exact hforth hpostponed
    · exact Nat.lt_asymm hends hends'
  · refine ⟨.inl hback, ?_⟩
    rintro (hpostponed | ⟨-, hnot⟩)
    · exact hforth hpostponed
    · exact hnot hback

/-! ## A text stored in the code, another one behind it -/

/-- A script that stores a text in the code of a canvas, and another one under the same name in a
surplus argument. -/
def storedTwice : String :=
  "$createCanvas[1;1;$setVar[x;code];$setVar[x;surplus]]"

/-- What is read of it. -/
def storedTwiceNodes : List (Node Location) :=
  let span := fun start stop => (⟨⟨start, 1, start + 1⟩, ⟨stop, 1, stop + 1⟩⟩ : Span Location)
  let word := fun s start stop => (⟨[.text s], s, span start stop⟩ : Argument Location)
  let code := .call "$setVar" [word "x" 26 27, word "code" 28 32] (span 18 33)
  let surplus := .call "$setVar" [word "x" 42 43, word "surplus" 44 51] (span 34 52)
  [.call "$createCanvas"
    [word "1" 14 15, word "1" 16 17, ⟨[code], "$setVar[x;code]", span 18 33⟩,
      ⟨[surplus], "$setVar[x;surplus]", span 34 52⟩] (span 0 53)]

/-- The call in the surplus argument. -/
def storedLast : Site Location :=
  ⟨"$setVar", ⟨34, 1, 35⟩, ⟨52, 1, 53⟩⟩

theorem read_storedTwice : Script.read storedTwice = .ok storedTwiceNodes :=
  eq_ok_of_toOption (by decide +kernel)

theorem sites_storedTwice : Node.sites storedTwiceNodes =
    [⟨"$setVar", ⟨18, 1, 19⟩, ⟨33, 1, 34⟩⟩, storedLast,
      ⟨"$createCanvas", ⟨0, 1, 1⟩, ⟨53, 1, 54⟩⟩] :=
  rfl

theorem run_storedTwice :
    let r := (Registry.empty.load definitions).1
    let files := Storage.FileSystem.ofWorking []
    let ids : IdSupply := { stamp := fun _ => 0, digit := fun _ _ => 0 }
    ∃ e w', (evaluateScript r {} storedTwice).run { files, ids } = (.ok e, w') ∧
      w'.get? "x" = some (.string "code") := by
  intro r files ids
  have hrun : ((evaluateScript r {} storedTwice).run { files, ids }).1.toOption.map (fun _ =>
      (((evaluateScript r {} storedTwice).run { files, ids }).2.get? "x").bind Value.string?) =
        some (some "code") := by
    decide +kernel
  generalize (evaluateScript r {} storedTwice).run { files, ids } = result at hrun
  obtain ⟨_ | e, w'⟩ := result
  · cases hrun
  obtain ⟨value, hvalue, hstring⟩ := Option.bind_eq_some_iff.1 (Option.some.inj hrun)
  cases value with
  | string s =>
    cases hstring
    exact ⟨e, w', rfl, hvalue⟩
  | _ => cases hstring

theorem stores_storedTwice {r : Registry Action} (hr : registry {} = .ok r)
    (hcreate : r.has creating.name = true) (hset : r.has storing.name = true) (w : World) :
    Stores (Context.root r {}) (.nodes storedTwiceNodes) w storedLast "x" "surplus" := by
  have hcreate := lookup?_root hr creating_mem rfl hcreate
  have hset := lookup?_root hr storing_mem_definitions rfl hset
  exact ⟨_, _, storing, ["x", "surplus"], _, w, w,
    .first (.argument rfl hcreate
      (.later rfl rfl (.later rfl rfl (.script rfl (.current rfl (.first .here)))))),
    hset, rfl, rfl, validate_storing (by decide) "surplus", rfl, rfl⟩

/-! ## What a variable holds -/

/-- **The last call that stores decides.** If a script can be evaluated, then a variable that any
call stores a text under holds in the end the text of the one of these calls that all others
precede: they end before it in the script, but calls in the code of a canvas come behind those in
the surplus arguments of the same call. -/
theorem evaluateScript_stores {config : Config} {r : Registry Action}
    (hr : registry config = .ok r) {source : String} {files : Storage.FileSystem}
    {ids : IdSupply} {e : Evaluation} {w' : World}
    (h : (evaluateScript r config source).run { files, ids } = (.ok e, w')) :
    ∃ nodes, Script.read source = .ok nodes ∧
      ∀ site₀ x v₀, Stores (Context.root r config) (.nodes nodes) { files, ids } site₀ x v₀ →
        ∃ site v, Stores (Context.root r config) (.nodes nodes) { files, ids } site x v ∧
          w'.get? x = some (.string v) ∧
          ∀ site' v', Stores (Context.root r config) (.nodes nodes) { files, ids } site' x v' →
            site' = site ∧ v' = v ∨ Precedes (Node.partsAll nodes) site' site ∧
              ¬Precedes (Node.partsAll nodes) site site' := by
  obtain ⟨nodes, js, hread, hruns, -⟩ := runs_evaluateScript hr h
  have hc := isStandard_root hr
  have ho := sites_read hread
  rw [EndInOrder, List.pairwise_map] at ho
  refine ⟨nodes, hread, fun site₀ x v₀ hstores => ?_⟩
  obtain ⟨before, j, after, v, rfl, hj, -, hvalue, hothers⟩ := hruns.exists_last_store hstores
  refine ⟨j.site, v, hj, hvalue, fun site' v' hstores' => ?_⟩
  rcases hothers site' v' hstores' with hsame | ⟨k, hk, rfl, hset⟩
  · exact .inl hsame
  · exact .inr (hruns.precedes hc ho hk (by rw [hset]; nofun))

/-- In the end the variable holds the text that is stored in the code, although the call in the
surplus argument ends behind every other call that stores a text under the name. -/
theorem evaluateScript_storedTwice :
    let files := Storage.FileSystem.ofWorking []
    let ids : IdSupply := { stamp := fun _ => 0, digit := fun _ _ => 0 }
    ∃ r e w', registry {} = .ok r ∧
      (evaluateScript r {} storedTwice).run { files, ids } = (.ok e, w') ∧
      Script.read storedTwice = .ok storedTwiceNodes ∧
      Stores (Context.root r {}) (.nodes storedTwiceNodes) { files, ids } storedLast "x" "surplus" ∧
      (∀ site v, Stores (Context.root r {}) (.nodes storedTwiceNodes) { files, ids } site "x" v →
        site = storedLast ∨ EndsBefore site storedLast) ∧
      w'.get? "x" = some (.string "code") := by
  intro files ids
  have hr := registry_default
  obtain ⟨e, w', hrun, hvalue⟩ := run_storedTwice
  have hhas : ∀ d ∈ [creating, storing], (Registry.empty.load definitions).1.has d.name = true := by
    decide +kernel
  have hstores := stores_storedTwice hr (hhas _ (.head _)) (hhas _ (.tail _ (.head _)))
  refine ⟨_, e, w', hr, hrun, read_storedTwice, hstores _, fun site v hs => ?_, hvalue⟩
  obtain ⟨nodes, js, hread, hruns, -⟩ := runs_evaluateScript hr hrun
  cases read_storedTwice.symm.trans hread
  have hc := isStandard_root hr
  have hname := hs.keyOf_name hruns hc
  obtain ⟨j, hj, rfl, -⟩ := hs.exists_entry hruns
  have hsite : j.site ∈ Node.sites storedTwiceNodes := hruns.site_mem hc hj
  rw [sites_storedTwice, List.mem_cons, List.mem_cons, List.mem_singleton] at hsite
  rcases hsite with hsite | hsite | hsite
  · rw [hsite]
    exact .inr (by decide : 33 < 52)
  · exact .inl hsite
  · have hother : Definition.keyOf "$createCanvas" ≠ storing.key := by decide +kernel
    rw [hsite] at hname
    exact absurd hname hother

/-- The script that stores under one name twice. -/
theorem evaluateScript_stores_storedTwice :
    let files := Storage.FileSystem.ofWorking []
    let ids : IdSupply := { stamp := fun _ => 0, digit := fun _ _ => 0 }
    ∃ r e w', registry {} = .ok r ∧
      (evaluateScript r {} storedTwice).run { files, ids } = (.ok e, w') ∧
      ∃ nodes, Script.read storedTwice = .ok nodes ∧
        ∀ site₀ x v₀, Stores (Context.root r {}) (.nodes nodes) { files, ids } site₀ x v₀ →
          ∃ site v, Stores (Context.root r {}) (.nodes nodes) { files, ids } site x v ∧
            w'.get? x = some (.string v) ∧
            ∀ site' v', Stores (Context.root r {}) (.nodes nodes) { files, ids } site' x v' →
              site' = site ∧ v' = v ∨ Precedes (Node.partsAll nodes) site' site ∧
                ¬Precedes (Node.partsAll nodes) site site' := by
  intro files ids
  obtain ⟨e, w', hrun, -⟩ := run_storedTwice
  exact ⟨_, e, w', registry_default, hrun, evaluateScript_stores registry_default hrun⟩

end CanvasScript.Standard
