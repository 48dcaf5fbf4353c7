import CanvasScript.Proofs.Standard.Faults
import CanvasScript.Proofs.Standard.Nesting
import CanvasScript.Proofs.Standard.Stores

/-!
# Which call is to blame

A fault about an argument names a command. It is the one of the call that the evaluation stops at,
and the calls around this one hand the fault on as it is.

* `Task.Leads`: carrying out a task leads to a world, with the fault that it ends with.
* `Stops`: what a call does itself, once its arguments are evaluated, ends with a fault.
* `Culprit`: a call stops, and nothing that its evaluation comes to fails.
* `Blames`: an evaluation comes to a culprit, or to a call of no command.
* `Registered`: a context sees nothing but commands of a registry.

Results:
* `Ends.leads`: every ending is that of an evaluation, as every evaluation has an ending.
* `Arrives.ends_of_fault`: a fault at a point that an evaluation comes to is the fault of all of it.
* `Ends.blames`: an evaluation that fails comes to a culprit, or to a call of no command.
* `Stops.command_eq`: a fault about an argument names the command of the call that stops.
* `Arrives.has`: what an evaluation comes to stands in what is evaluated.
* `evaluateScript_blames`: all of this for whole scripts.
-/

namespace CanvasScript.Standard

open Canvas Command Run Script Settings

variable {c c' : Context Action} {d : Definition Action} {a : Arguments} {t : Task}
  {w w' w₁ : World} {n : Node Location} {name : String} {as : List (Argument Location)}
  {raws : List String} {o : Option Fault} {fault : Fault}

/-! ## Every ending is that of an evaluation -/

/-- Carrying out a task in a context leads from a world to another one, with the fault that it ends
with. -/
def Task.Leads (c : Context Action) (w : World) (o : Option Fault) (w' : World) : Task → Prop
  | .node n => ∃ r, (evaluateNode n c).run w = (r, w') ∧ faultOf r = o
  | .nodes ns => ∃ r, (pieces ns c).run w = (r, w') ∧ faultOf r = o
  | .arguments d index as => ∀ arguments, ∃ r,
      ((⟨d, arguments, c⟩ : Invocation Action).rawTexts index (delayAll as)).run w = (r, w') ∧
        faultOf r = o

theorem eq_error_of_faultOf {β : Type} {r : Except Fault β} (h : faultOf r = some fault) :
    r = .error fault := by
  cases r with
  | ok b => cases h
  | error fault' =>
    cases h
    rfl

theorem exists_ok_of_faultOf {β : Type} {r : Except Fault β} (h : faultOf r = none) :
    ∃ b, r = .ok b := by
  cases r with
  | ok b => exact ⟨b, rfl⟩
  | error fault' => cases h

/-- A call fails if its arguments do, or if they are refused. -/
theorem run_of_invalid (hn : called? n = some (name, as)) (hd : c.lookup? name = some d)
    (hv : (Invocation.validate ⟨d, delayAll as, c⟩).run w = (.error fault, w')) :
    (evaluateNode n c).run w = (.error fault, w') := by
  rw [evaluateNode_called hn hd]
  cases hh : (d.action.handler : Handler Action) with
  | resolved run | canvas run => rw [Handler.run, Eval.run_bind, hv]
  | deferred run =>
    obtain ⟨-, rfl⟩ := eq_createCanvas_of_deferred hh
    rw [Handler.run, createCanvas_eq, Eval.run_bind, hv]

/-- A call whose arguments are accepted ends as its own step does. -/
theorem run_of_acts (hn : called? n = some (name, as)) (hd : c.lookup? name = some d)
    (hv : (Invocation.validate ⟨d, delayAll as, c⟩).run w = (.ok a, w₁))
    (h : Acts c d a w₁ o w') : (Task.node n).Leads c w o w' := by
  cases h with
  | @resolved run hh r w' h =>
    refine ⟨r, ?_, rfl⟩
    rw [evaluateNode_called hn hd, hh, Handler.run, Eval.run_bind, hv]
    exact h
  | @canvas run hh r w' h =>
    refine ⟨r.map fun _ => "", ?_, by cases r <;> rfl⟩
    rw [evaluateNode_called hn hd, hh, Handler.run, Eval.run_bind, hv]
    dsimp only
    rw [Eval.run_bind, h]
    cases r <;> rfl

/-- Nodes end as the rest of them does, once the first one is evaluated. -/
theorem leads_cons {ns : List (Node Location)} (hn : (Task.node n).Leads c w none w₁)
    (hns : (Task.nodes ns).Leads c w₁ o w') : (Task.nodes (n :: ns)).Leads c w o w' := by
  obtain ⟨r, hn, hr⟩ := hn
  obtain ⟨text, rfl⟩ := exists_ok_of_faultOf hr
  obtain ⟨r', hns, rfl⟩ := hns
  refine ⟨r'.map (text :: ·), ?_, by cases r' <;> rfl⟩
  rw [pieces, Eval.run_bind, hn]
  dsimp only
  rw [Eval.run_bind, hns]
  cases r' <;> rfl

/-- Arguments end as the rest of them does, once the first one is there. -/
theorem leads_arguments {index : Nat} {b : Argument Location}
    (hb : ∀ arguments, ∃ text, ((⟨d, arguments, c⟩ : Invocation Action).rawText index
      (delay b)).run w = (.ok text, w₁))
    (has : (Task.arguments d (index + 1) as).Leads c w₁ o w') :
    (Task.arguments d index (b :: as)).Leads c w o w' := by
  intro arguments
  obtain ⟨text, hb⟩ := hb arguments
  obtain ⟨r, hrun, hr⟩ := has arguments
  refine ⟨r.map (text :: ·), ?_, by cases r <;> exact hr⟩
  rw [delayAll, Invocation.rawTexts, Eval.run_bind, hb]
  dsimp only
  rw [Eval.run_bind, hrun]
  cases r <;> rfl

theorem run_resolve {b : Argument Location} {r : Except Fault (List String)}
    (h : (pieces b.nodes c).run w = (r, w')) :
    ((delay b : Delayed Action).resolve c).run w = (r.map String.join, w') := by
  obtain ⟨nodes, source, span⟩ := b
  have hp : (pieces nodes c).run w = (r, w') := h
  rw [delay]
  dsimp only
  rw [Eval.run_bind, hp]
  cases r <;> rfl

/-- Every ending is that of an evaluation. -/
theorem Ends.leads (h : Ends c t w o w') : t.Leads c w o w' := by
  induction h with
  | text | nil => exact ⟨.ok _, rfl, rfl⟩
  | done => exact fun arguments => ⟨.ok _, rfl, rfl⟩
  | @mention c w name span h =>
    refine ⟨.ok name, ?_, rfl⟩
    rw [evaluateNode, callByName, h]
    rfl
  | @unknown c w name as span h =>
    refine ⟨.error _, ?_, rfl⟩
    rw [evaluateNode, callByName, h]
    rfl
  | unresolved hn hd hargs ih =>
    obtain ⟨r, hrun, hr⟩ := ih (delayAll _)
    rw [eq_error_of_faultOf hr] at hrun
    have hresolves : Resolves _ _ _ _ (.error _) _ := hrun
    exact ⟨_, run_of_invalid hn hd hresolves.run_validate, rfl⟩
  | refused hn hd hargs hr hv ih =>
    have hvalidate := hr.run_validate.trans (congrArg (·, _) hv)
    exact ⟨_, run_of_invalid hn hd hvalidate, rfl⟩
  | acts hn hd hargs hr hv ha ih => exact run_of_acts hn hd (validate_ok_iff.2 ⟨_, hr, hv⟩) ha
  | unopened hn hd ha hargs hr hv hm ih =>
    refine ⟨_, run_createCanvas_of_error hn hd ha hr ?_, rfl⟩
    exact (congrArg (· >>= measures) hv).trans hm
  | @opened c inner w w₁ w₂ w' n name as d raws a o hn hd ha hargs hr hv ho hcode ih ih' =>
    obtain ⟨r, hrun, rfl⟩ := ih'
    refine ⟨r.map fun _ => "", ?_, by cases r <;> rfl⟩
    have hvalid : (Except.ok raws >>= d.validate) = Except.ok a := hv
    rw [run_createCanvas hn hd ha hr, Eval.run_bind, Eval.run_ofExcept, hvalid]
    dsimp only
    rw [Eval.run_bind, ho]
    exact run_code hrun
  | stop hn ih =>
    obtain ⟨r, hn, hr⟩ := ih
    rw [eq_error_of_faultOf hr] at hn
    refine ⟨.error _, ?_, rfl⟩
    rw [pieces, Eval.run_bind, hn]
  | cons hn hns ih ih' => exact leads_cons ih ih'
  | script hs has ih =>
    refine leads_arguments (fun arguments => ?_) ih
    rw [rawText_of_script hs]
    exact ⟨_, rfl⟩
  | stuck hs ha ih =>
    intro arguments
    obtain ⟨r, ha, hr⟩ := ih
    rw [eq_error_of_faultOf hr] at ha
    refine ⟨.error _, ?_, rfl⟩
    rw [delayAll, Invocation.rawTexts, rawText_of_not_script hs, Eval.run_bind, run_resolve ha]
    rfl
  | resolved hs ha has ih ih' =>
    obtain ⟨r, ha, hr⟩ := ih
    obtain ⟨texts, rfl⟩ := exists_ok_of_faultOf hr
    refine leads_arguments (fun arguments => ?_) ih'
    rw [rawText_of_not_script hs]
    exact ⟨_, run_resolve ha⟩

/-- A task ends in one way. -/
theorem Task.Leads.unique {o' : Option Fault} {w₂ : World} (h : t.Leads c w o w')
    (h' : t.Leads c w o' w₂) : o = o' ∧ w' = w₂ := by
  cases t with
  | node n | nodes ns =>
    obtain ⟨r, hrun, rfl⟩ := h
    obtain ⟨r', hrun', rfl⟩ := h'
    cases hrun.symm.trans hrun'
    exact ⟨rfl, rfl⟩
  | arguments d index as =>
    obtain ⟨r, hrun, rfl⟩ := h []
    obtain ⟨r', hrun', rfl⟩ := h' []
    cases hrun.symm.trans hrun'
    exact ⟨rfl, rfl⟩

/-! ## Faults are handed on -/

/-- A fault at a point that an evaluation comes to is the fault of all of it: nothing is done after
it, and it is not changed on its way out. -/
theorem Arrives.ends_of_fault (h : Arrives c t w c' n w₁)
    (hf : Ends c' (.node n) w₁ (some fault) w') : Ends c t w (some fault) w' := by
  induction h with
  | here => exact hf
  | argument hn hd h ih => exact .unresolved hn hd (ih hf)
  | code hn hd ha hr hv ho h ih => exact .opened hn hd ha hr.ends hr hv ho (ih hf)
  | first h ih => exact .stop (ih hf)
  | next hn h ih => exact .cons (ends_node _ _ _ _ _ hn) (ih hf)
  | script hs h ih => exact .script hs (ih hf)
  | current hs h ih => exact .stuck hs (ih hf)
  | later hs ha h ih => exact .resolved hs (ends_pieces _ _ _ _ _ ha) (ih hf)

/-- What an evaluation that completes comes to completes, too. -/
theorem Arrives.completes (h : Arrives c t w c' n w₁) (ht : t.Leads c w none w') :
    ∃ text w₂, (evaluateNode n c').run w₁ = (.ok text, w₂) := by
  rcases hrun : (evaluateNode n c').run w₁ with ⟨r, w₂⟩
  cases r with
  | ok text => exact ⟨text, w₂, rfl⟩
  | error fault =>
    have hends := h.ends_of_fault (ends_node _ _ _ _ _ hrun)
    cases (hends.leads.unique ht).1

/-! ## Culprits -/

/-- What a call does itself, once its arguments are evaluated, ends with a fault: they are refused,
its own step fails, or they say no size of a canvas. -/
inductive Stops (c : Context Action) (d : Definition Action) (raws : List String) (w : World)
    (fault : Fault) : World → Prop
  | refused (hv : d.validate raws = .error fault) : Stops c d raws w fault w
  | acts {a : Arguments} {w' : World} (hv : d.validate raws = .ok a)
      (ha : Acts c d a w (some fault) w') : Stops c d raws w fault w'
  | unopened {a : Arguments} (ha : d.action = .createCanvas) (hv : d.validate raws = .ok a)
      (hm : measures a = .error fault) : Stops c d raws w fault w

/-- The call of a command is to blame for a fault. -/
structure Culprit (c : Context Action) (n : Node Location) (w : World) (d : Definition Action)
    (fault : Fault) (w' : World) : Prop where
  /-- It is a call of the command. Its arguments are evaluated, all but those taken as scripts, and
  then it stops. -/
  stops : ∃ name as raws w₁, called? n = some (name, as) ∧ c.lookup? name = some d ∧
    Resolves c d as w (.ok raws) w₁ ∧ Stops c d raws w₁ fault w'
  /-- This is how it ends. -/
  fails : (evaluateNode n c).run w = (.error fault, w')
  /-- Nothing else that its evaluation comes to fails. -/
  innermost : ∀ c' n' w₁, Arrives c (.node n) w c' n' w₁ →
    (c' = c ∧ n' = n ∧ w₁ = w) ∨ ∃ text w₂, (evaluateNode n' c').run w₁ = (.ok text, w₂)

theorem ne_createCanvas_of_acts (h : Acts c d a w o w') : d.action ≠ .createCanvas := by
  intro ha
  cases h with
  | resolved run hh | canvas run hh =>
    rw [ha] at hh
    cases hh

/-- A call that stops opens no canvas. -/
theorem Stops.not_opening (h : Stops c d raws w fault w') (ha : d.action = .createCanvas)
    (hv : d.validate raws = .ok a) {inner : Context Action} :
    (opening c d a).run w ≠ (.ok inner, w₁) := by
  intro ho
  cases h with
  | refused hv' => cases hv.symm.trans hv'
  | acts hv' hacts => exact ne_createCanvas_of_acts hacts ha
  | unopened ha' hv' hm =>
    cases hv.symm.trans hv'
    cases ho.symm.trans (run_opening_of_error hm)

/-- A call that stops is a culprit. -/
theorem culprit_of_stops (hn : called? n = some (name, as)) (hd : c.lookup? name = some d)
    (hr : Resolves c d as w (.ok raws) w₁) (hs : Stops c d raws w₁ fault w')
    (hends : Ends c (.node n) w (some fault) w') : Culprit c n w d fault w' where
  stops := ⟨name, as, raws, w₁, hn, hd, hr, hs⟩
  fails := by
    obtain ⟨r, hrun, hr⟩ := hends.leads
    rwa [eq_error_of_faultOf hr] at hrun
  innermost := by
    intro c' n' w₂ h
    cases h with
    | here => exact .inl ⟨rfl, rfl, rfl⟩
    | argument hn' hd' h =>
      cases hn.symm.trans hn'
      cases hd.symm.trans hd'
      exact .inr (h.completes hr.ends.leads)
    | code hn' hd' ha hr' hv ho h =>
      cases hn.symm.trans hn'
      cases hd.symm.trans hd'
      cases hr.symm.trans hr'
      exact absurd ho (hs.not_opening ha hv)

/-- An evaluation comes to the call that is to blame for its fault, or to a call of no command. -/
def Blames (c : Context Action) (t : Task) (w : World) (fault : Fault) (w' : World) : Prop :=
  (∃ c' n w₁ d, Arrives c t w c' n w₁ ∧ Culprit c' n w₁ d fault w') ∨
    ∃ c' name as span, Arrives c t w c' (.call name as span) w' ∧ c'.lookup? name = none ∧
      fault = .unknownCommand name span.start ((c'.registry.get? name).bind (·.parent?))

/-- What evaluating a part of a task comes to, evaluating the task comes to. -/
theorem Blames.imp {t' : Task}
    (h : ∀ {c'' n w''}, Arrives c' t' w₁ c'' n w'' → Arrives c t w c'' n w'')
    (hb : Blames c' t' w₁ fault w') : Blames c t w fault w' := by
  rcases hb with ⟨c'', n, w'', d, harrives, hculprit⟩ | ⟨c'', name, as, span, harrives, hnone⟩
  · exact .inl ⟨c'', n, w'', d, h harrives, hculprit⟩
  · exact .inr ⟨c'', name, as, span, h harrives, hnone⟩

/-- An evaluation that fails blames one of the points that it comes to. -/
theorem Ends.blames (h : Ends c t w o w') (ho : o = some fault) : Blames c t w fault w' := by
  induction h with
  | text | mention | nil | done => cases ho
  | unknown h =>
    cases ho
    exact .inr ⟨_, _, _, _, .here, h, rfl⟩
  | unresolved hn hd hargs ih => exact (ih ho).imp (.argument hn hd)
  | refused hn hd hargs hr hv ih =>
    cases ho
    exact .inl ⟨_, _, _, _, .here,
      culprit_of_stops hn hd hr (.refused hv) (.refused hn hd hargs hr hv)⟩
  | acts hn hd hargs hr hv ha ih =>
    subst ho
    exact .inl ⟨_, _, _, _, .here,
      culprit_of_stops hn hd hr (.acts hv ha) (.acts hn hd hargs hr hv ha)⟩
  | unopened hn hd ha hargs hr hv hm ih =>
    cases ho
    exact .inl ⟨_, _, _, _, .here,
      culprit_of_stops hn hd hr (.unopened ha hv hm) (.unopened hn hd ha hargs hr hv hm)⟩
  | opened hn hd ha hargs hr hv hop hcode ih ih' => exact (ih' ho).imp (.code hn hd ha hr hv hop)
  | stop hn ih => exact (ih ho).imp .first
  | cons hn hns ih ih' =>
    obtain ⟨r, hrun, hr⟩ := hn.leads
    obtain ⟨text, rfl⟩ := exists_ok_of_faultOf hr
    exact (ih' ho).imp (.next hrun)
  | script hs has ih => exact (ih ho).imp (.script hs)
  | stuck hs ha ih => exact (ih ho).imp (.current hs)
  | resolved hs ha has ih ih' =>
    obtain ⟨r, hrun, hr⟩ := ha.leads
    obtain ⟨texts, rfl⟩ := exists_ok_of_faultOf hr
    exact (ih' ho).imp (.later hs hrun)

/-! ## Names -/

/-- A fault about an argument names the command of the call that stops. -/
theorem Stops.command_eq {command expected received : String}
    (h : Stops c d raws w (.argument command expected received) w') : command = d.name := by
  cases h with
  | refused hv =>
    cases Definition.faultsAre_validate d raws _ hv
    rfl
  | unopened ha hv hm =>
    rw [← Definition.command_of_validate hv]
    cases faultsAre_measures _ _ hm
    rfl
  | acts hv ha =>
    have heffect := effect_of_acts ha
    generalize ho : some (Fault.argument command expected received) = o at heffect
    cases heffect with
    | «variable» hd hs hfaults =>
      obtain ⟨expected', received', hf⟩ := hfaults _ ho.symm
      exact (Fault.argument.inj hf).1
    | pathless | refuses | unrendered =>
      exact Fault.ArgumentOf.of_inCommand (Option.some.inj ho).symm
    | stray | changes | renders => cases ho

/-- The names of commands begin with a dollar sign, so that none of them is a word for a part of a
canvas. -/
theorem isName_name : ∀ d ∈ definitions,
    Definition.isName d.name = true ∧ d.name ∉ ["layer", "outline", "font", "canvas"] := by
  decide +kernel

/-! ## Where the call stands -/

theorem mem_parts_of_called {p : Script.Part Location} (hn : called? n = some (name, as))
    (hp : p ∈ Argument.partsAll as) : p ∈ n.parts := by
  cases n with
  | text => cases hn
  | mention =>
    cases hn
    cases hp
  | call =>
    cases hn
    exact List.mem_append_left _ hp

/-- What an evaluation comes to stands in what is evaluated. -/
theorem Arrives.has (h : Arrives c t w c' n w') {p : Script.Part Location} (hp : p ∈ n.parts) :
    t.Has p := by
  induction h with
  | here => exact hp
  | argument hn hd h ih => exact mem_parts_of_called hn (ih hp).of_arguments
  | code hn hd ha hr hv ho h ih => exact mem_parts_of_called hn (mem_partsAll_of_code (ih hp))
  | first h ih => exact List.mem_append_left _ (ih hp)
  | next hn h ih => exact List.mem_append_right _ (ih hp)
  | script hs h ih | later hs ha h ih => exact (ih hp).cons
  | current hs h ih => exact .head hs (ih hp)

/-- Nothing but commands of the registry can be seen. -/
structure Registered (r : Registry Action) (c : Context Action) : Prop where
  registry : c.registry = r
  commands : AllFiled (· ∈ r.list) c.commands

variable {r : Registry Action}

theorem Stock.allFiled_list (h : Stock r) : AllFiled (· ∈ r.list) r.commands :=
  fun _ d hd => ⟨List.mem_map.2 ⟨_, KeyMap.mem_toList_iff.2 hd, rfl⟩, (h.standard _ d hd).2⟩

theorem registered_root (h : Stock r) (settings : Config) :
    Registered r (Context.root r settings) where
  registry := rfl
  commands :=
    allFiled_insertAll allFiled_empty fun _ => Registry.of_mem_topLevel h.allFiled_list

theorem Registered.opening (hc : Registered r c) (h : Stock r) (ha : d.action = .createCanvas)
    {inner : Context Action} (ho : (opening c d a).run w = (.ok inner, w')) :
    Registered r inner := by
  rw [(changes_of_opening ha ho).1]
  refine ⟨hc.registry, allFiled_insertAll hc.commands fun _ hd => ?_⟩
  rw [hc.registry] at hd
  exact Registry.of_mem_childrenOf h.allFiled_list hd

theorem Arrives.registered (h : Arrives c t w c' n w') (hc : Registered r c) (hr : Stock r) :
    Registered r c' := by
  induction h with
  | here => exact hc
  | argument hn hd h ih | first h ih | next hn h ih | script hs h ih | current hs h ih
  | later hs ha h ih => exact ih hc
  | code hn hd ha hr' hv ho h ih => exact ih (hc.opening hr ha ho)

/-! ## Whole scripts -/

/-- **The call that fails is named.** If a script fails with a fault about an argument, then the
fault names the command of a call in the script, as it is registered, which stops once its own
arguments are evaluated, and in which nothing else fails. The calls around it only hand the fault
on: whatever fails on the way ends with this very fault, in the same world. -/
theorem evaluateScript_blames {config settings : Config} (hr : registry config = .ok r)
    {source : String} {files : Storage.FileSystem} {ids : IdSupply}
    {command expected received : String}
    (h : (evaluateScript r settings source).run { files, ids } =
      (.error (.argument command expected received), w')) :
    ∃ nodes, Script.read source = .ok nodes ∧
      (∃ c n w d, Arrives (Context.root r settings) (.nodes nodes) { files, ids } c n w ∧
        n.parts ⊆ Node.partsAll nodes ∧
        Culprit c n w d (.argument command expected received) w' ∧
        d ∈ r.list ∧ command = d.name ∧
        Definition.isName command = true ∧ command ∉ ["layer", "outline", "font", "canvas"]) ∧
      ∀ c n w fault w₁, Arrives (Context.root r settings) (.nodes nodes) { files, ids } c n w →
        (evaluateNode n c).run w = (.error fault, w₁) →
        fault = .argument command expected received ∧ w₁ = w' := by
  rcases ends_evaluateScript h with ⟨fault, hread, hf, -⟩ | ⟨nodes, hread, hends, -⟩
  · cases hf
    obtain ⟨f, hf⟩ := faultsAre_read source _ hread
    cases hf
  have hstock := stock_registry hr
  refine ⟨nodes, hread, ?_, fun c n w fault w₁ harrives hrun => ?_⟩
  · rcases hends.blames rfl with ⟨c, n, w, d, harrives, hculprit⟩ | ⟨c, name, as, span, -, -, hf⟩
    · obtain ⟨name, as, raws, w₁, hn, hd, hres, hstops⟩ := hculprit.stops
      have hmem : d ∈ r.list :=
        prop_of_lookup? (harrives.registered (registered_root hstock settings) hstock).commands hd
      have hname := hstops.command_eq
      have hdefinition := isName_name d (of_mem_values hstock.standard hmem)
      rw [← hname] at hdefinition
      exact ⟨c, n, w, d, harrives, fun p hp => harrives.has hp, hculprit, hmem, hname, hdefinition⟩
    · cases hf
  · have hfails := harrives.ends_of_fault (ends_node n c w _ w₁ hrun)
    obtain ⟨hfault, rfl⟩ := hfails.leads.unique hends.leads
    exact ⟨Option.some.inj hfault, rfl⟩

/-- A layer on a canvas is too large. Neither the canvas is blamed for it, nor the layer, and the
command is spelt as it is registered. -/
theorem evaluateScript_blames_nested :
    let source := "$CREATECANVAS[1;1;$addcirclelayer[0;0;99999;#fff]]"
    let files := Storage.FileSystem.ofWorking []
    let ids : IdSupply := { stamp := fun _ => 0, digit := fun _ _ => 0 }
    let fault := Fault.argument "$addCircleLayer" "Radius at most 16384" "99999"
    ∃ r w', registry {} = .ok r ∧
      (evaluateScript r {} source).run { files, ids } = (.error fault, w') ∧
      ∃ nodes, Script.read source = .ok nodes ∧
        ∃ c n w d, Arrives (Context.root r {}) (.nodes nodes) { files, ids } c n w ∧
          n.parts ⊆ Node.partsAll nodes ∧ Culprit c n w d fault w' ∧ d ∈ r.list ∧
          "$addCircleLayer" = d.name := by
  intro source files ids fault
  have hr := registry_default
  have hfault : faultOf ((evaluateScript (Registry.empty.load definitions).1 {} source).run
      { files, ids }).1 = some fault := by
    decide +kernel
  rcases hrun : (evaluateScript (Registry.empty.load definitions).1 {} source).run
    { files, ids } with ⟨result, w'⟩
  rw [hrun] at hfault
  cases eq_error_of_faultOf hfault
  obtain ⟨nodes, hread, ⟨c, n, w, d, harrives, hparts, hculprit, hmem, hname, -⟩, -⟩ :=
    evaluateScript_blames hr hrun
  exact ⟨_, w', hr, hrun, nodes, hread, c, n, w, d, harrives, hparts, hculprit, hmem, hname⟩

end CanvasScript.Standard
