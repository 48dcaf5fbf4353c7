import CanvasScript.Proofs.Standard.Commands
import CanvasScript.Proofs.Standard.Steps

/-!
# Evaluations that complete or fail

An evaluation ends with its last call, or with the first fault. What was done before stays done, so
what is said of the canvases has to be said of evaluations that fail, too.

* `Task`: what is evaluated, a node, nodes or the arguments of a call.
* `called?`: a node as a call; a name without brackets is one without arguments.
* `Resolves`: the arguments of a call are evaluated.
* `Ends`: a task, evaluated in a context, leads from a world to another one, with the fault that it
  ends with. There is one rule for each place where it can stop.
* `Arrives`: evaluating a task comes to a node, in some context and some world.

Results:
* `ends_pieces`: every evaluation ends in one of these ways.
* `ends_evaluateScript`: so does a whole script, unless it cannot be read.
-/

namespace CanvasScript.Standard

open Command Run Script Settings

/-- What is to be evaluated. -/
inductive Task where
  | node (n : Node Location)
  | nodes (ns : List (Node Location))
  /-- The arguments of a call from an index on, those that are not taken as scripts. -/
  | arguments (d : Definition Action) (index : Nat) (as : List (Argument Location))

/-- The argument that is the code of a canvas. -/
def codeArgument? (d : Definition Action) (as : List (Argument Location)) :
    Option (Argument Location) :=
  (d.parameters.findIdx? (·.name == "Code")).bind (as[·]?)

/-- The code of a canvas, empty if there is none. -/
def codeOf (d : Definition Action) (as : List (Argument Location)) : List (Node Location) :=
  ((codeArgument? d as).map (·.nodes)).getD []

/-- The name and the arguments of a call. -/
def called? : Node Location → Option (String × List (Argument Location))
  | .text _ => none
  | .mention name _ => some (name, [])
  | .call name as _ => some (name, as)

/-- The arguments of a call are evaluated from left to right, all but those taken as scripts. The
result is their raw texts, or the fault of one of them. -/
def Resolves (c : Context Action) (d : Definition Action) (as : List (Argument Location))
    (w : World) (result : Except Fault (List String)) (w' : World) : Prop :=
  ((⟨d, delayAll as, c⟩ : Invocation Action).rawTexts 0 (delayAll as)).run w = (result, w')

/-- A task, evaluated in a context, leads from a world to another one, and ends with this fault. -/
inductive Ends : Context Action → Task → World → Option Fault → World → Prop
  | text {c : Context Action} {w : World} {content : String} :
      Ends c (.node (.text content)) w none w
  | mention {c : Context Action} {w : World} {name : String} {span : Span Location}
      (h : c.lookup? name = none) : Ends c (.node (.mention name span)) w none w
  | unknown {c : Context Action} {w : World} {name : String} {as : List (Argument Location)}
      {span : Span Location} (h : c.lookup? name = none) :
      Ends c (.node (.call name as span)) w
        (some (.unknownCommand name span.start ((c.registry.get? name).bind (·.parent?)))) w
  /-- An argument fails. -/
  | unresolved {c : Context Action} {w w' : World} {n : Node Location} {name : String}
      {as : List (Argument Location)} {d : Definition Action} {fault : Fault}
      (hn : called? n = some (name, as)) (hd : c.lookup? name = some d)
      (hargs : Ends c (.arguments d 0 as) w (some fault) w') : Ends c (.node n) w (some fault) w'
  /-- The arguments are not those of the command. -/
  | refused {c : Context Action} {w w' : World} {n : Node Location} {name : String}
      {as : List (Argument Location)} {d : Definition Action} {raws : List String} {fault : Fault}
      (hn : called? n = some (name, as)) (hd : c.lookup? name = some d)
      (hargs : Ends c (.arguments d 0 as) w none w') (hr : Resolves c d as w (.ok raws) w')
      (hv : d.validate raws = .error fault) : Ends c (.node n) w (some fault) w'
  | acts {c : Context Action} {w w₁ w' : World} {n : Node Location} {name : String}
      {as : List (Argument Location)} {d : Definition Action} {raws : List String} {a : Arguments}
      {o : Option Fault} (hn : called? n = some (name, as)) (hd : c.lookup? name = some d)
      (hargs : Ends c (.arguments d 0 as) w none w₁) (hr : Resolves c d as w (.ok raws) w₁)
      (hv : d.validate raws = .ok a) (ha : Acts c d a w₁ o w') : Ends c (.node n) w o w'
  /-- The arguments are those of a canvas of an impossible size. -/
  | unopened {c : Context Action} {w w' : World} {n : Node Location} {name : String}
      {as : List (Argument Location)} {d : Definition Action} {raws : List String} {a : Arguments}
      {fault : Fault} (hn : called? n = some (name, as)) (hd : c.lookup? name = some d)
      (ha : d.action = .createCanvas) (hargs : Ends c (.arguments d 0 as) w none w')
      (hr : Resolves c d as w (.ok raws) w') (hv : d.validate raws = .ok a)
      (hm : measures a = .error fault) : Ends c (.node n) w (some fault) w'
  | opened {c inner : Context Action} {w w₁ w₂ w' : World} {n : Node Location} {name : String}
      {as : List (Argument Location)} {d : Definition Action} {raws : List String} {a : Arguments}
      {o : Option Fault} (hn : called? n = some (name, as)) (hd : c.lookup? name = some d)
      (ha : d.action = .createCanvas) (hargs : Ends c (.arguments d 0 as) w none w₁)
      (hr : Resolves c d as w (.ok raws) w₁) (hv : d.validate raws = .ok a)
      (ho : (opening c d a).run w₁ = (.ok inner, w₂))
      (hcode : Ends inner (.nodes (codeOf d as)) w₂ o w') : Ends c (.node n) w o w'
  | nil {c : Context Action} {w : World} : Ends c (.nodes []) w none w
  | stop {c : Context Action} {w w' : World} {n : Node Location} {ns : List (Node Location)}
      {fault : Fault} (hn : Ends c (.node n) w (some fault) w') :
      Ends c (.nodes (n :: ns)) w (some fault) w'
  | cons {c : Context Action} {w w₁ w' : World} {n : Node Location} {ns : List (Node Location)}
      {o : Option Fault} (hn : Ends c (.node n) w none w₁) (hns : Ends c (.nodes ns) w₁ o w') :
      Ends c (.nodes (n :: ns)) w o w'
  | done {c : Context Action} {w : World} {d : Definition Action} {index : Nat} :
      Ends c (.arguments d index []) w none w
  | script {c : Context Action} {w w' : World} {d : Definition Action} {index : Nat}
      {a : Argument Location} {as : List (Argument Location)} {o : Option Fault}
      (hs : takesScript d index = true) (has : Ends c (.arguments d (index + 1) as) w o w') :
      Ends c (.arguments d index (a :: as)) w o w'
  | stuck {c : Context Action} {w w' : World} {d : Definition Action} {index : Nat}
      {a : Argument Location} {as : List (Argument Location)} {fault : Fault}
      (hs : takesScript d index = false) (ha : Ends c (.nodes a.nodes) w (some fault) w') :
      Ends c (.arguments d index (a :: as)) w (some fault) w'
  | resolved {c : Context Action} {w w₁ w' : World} {d : Definition Action} {index : Nat}
      {a : Argument Location} {as : List (Argument Location)} {o : Option Fault}
      (hs : takesScript d index = false) (ha : Ends c (.nodes a.nodes) w none w₁)
      (has : Ends c (.arguments d (index + 1) as) w₁ o w') :
      Ends c (.arguments d index (a :: as)) w o w'

/-- Evaluating a task in a context comes to a node, in a context and a world of its own. The node
need not be the last one, nor need its evaluation succeed. -/
inductive Arrives : Context Action → Task → World → Context Action → Node Location → World → Prop
  | here {c : Context Action} {w : World} {n : Node Location} : Arrives c (.node n) w c n w
  | argument {c c' : Context Action} {w w' : World} {n n' : Node Location} {name : String}
      {as : List (Argument Location)} {d : Definition Action} (hn : called? n = some (name, as))
      (hd : c.lookup? name = some d) (h : Arrives c (.arguments d 0 as) w c' n' w') :
      Arrives c (.node n) w c' n' w'
  | code {c inner c' : Context Action} {w w₁ w₂ w' : World} {n n' : Node Location} {name : String}
      {as : List (Argument Location)} {d : Definition Action} {raws : List String} {a : Arguments}
      (hn : called? n = some (name, as)) (hd : c.lookup? name = some d)
      (ha : d.action = .createCanvas) (hr : Resolves c d as w (.ok raws) w₁)
      (hv : d.validate raws = .ok a) (ho : (opening c d a).run w₁ = (.ok inner, w₂))
      (h : Arrives inner (.nodes (codeOf d as)) w₂ c' n' w') : Arrives c (.node n) w c' n' w'
  | first {c c' : Context Action} {w w' : World} {n n' : Node Location} {ns : List (Node Location)}
      (h : Arrives c (.node n) w c' n' w') : Arrives c (.nodes (n :: ns)) w c' n' w'
  | next {c c' : Context Action} {w w₁ w' : World} {n n' : Node Location}
      {ns : List (Node Location)} {text : String} (hn : (evaluateNode n c).run w = (.ok text, w₁))
      (h : Arrives c (.nodes ns) w₁ c' n' w') : Arrives c (.nodes (n :: ns)) w c' n' w'
  | script {c c' : Context Action} {w w' : World} {n' : Node Location} {d : Definition Action}
      {index : Nat} {a : Argument Location} {as : List (Argument Location)}
      (hs : takesScript d index = true) (h : Arrives c (.arguments d (index + 1) as) w c' n' w') :
      Arrives c (.arguments d index (a :: as)) w c' n' w'
  | current {c c' : Context Action} {w w' : World} {n' : Node Location} {d : Definition Action}
      {index : Nat} {a : Argument Location} {as : List (Argument Location)}
      (hs : takesScript d index = false) (h : Arrives c (.nodes a.nodes) w c' n' w') :
      Arrives c (.arguments d index (a :: as)) w c' n' w'
  | later {c c' : Context Action} {w w₁ w' : World} {n' : Node Location} {d : Definition Action}
      {index : Nat} {a : Argument Location} {as : List (Argument Location)} {texts : List String}
      (hs : takesScript d index = false) (ha : (pieces a.nodes c).run w = (.ok texts, w₁))
      (h : Arrives c (.arguments d (index + 1) as) w₁ c' n' w') :
      Arrives c (.arguments d index (a :: as)) w c' n' w'

/-! ## Every evaluation ends -/

/-- However the evaluation of the nodes ends, it is one of these endings. -/
def Ended (ns : List (Node Location)) : Prop :=
  ∀ (c : Context Action) (w : World) (r : Except Fault (List String)) (w' : World),
    (pieces ns c).run w = (r, w') → Ends c (.nodes ns) w (faultOf r) w'

variable {c : Context Action} {w w' : World}

/-- A call is carried out by the handler of the command that it names. -/
theorem evaluateNode_called {n : Node Location} {name : String} {as : List (Argument Location)}
    {d : Definition Action} (hn : called? n = some (name, as)) (hd : c.lookup? name = some d) :
    evaluateNode n c = d.action.handler.run ⟨d, delayAll as, c⟩ := by
  cases n with
  | text content => cases hn
  | mention name' span =>
    cases hn
    rw [evaluateNode, callByName, hd]
    rfl
  | call name' as' span =>
    cases hn
    rw [evaluateNode, callByName, hd]
    rfl

/-- The raw text of an argument is its source, or what its evaluation gives. -/
theorem rawText_cases {d : Definition Action} {arguments : List (Delayed Action)} {index : Nat}
    {a : Delayed Action} {r : Except Fault String}
    (h : ((⟨d, arguments, c⟩ : Invocation Action).rawText index a).run w = (r, w')) :
    takesScript d index = true ∧ r = .ok a.source ∧ w' = w ∨
      takesScript d index = false ∧ (a.resolve c).run w = (r, w') := by
  cases hs : takesScript d index with
  | true =>
    rw [rawText_of_script hs] at h
    cases h
    exact .inl ⟨rfl, rfl, rfl⟩
  | false =>
    rw [rawText_of_not_script hs] at h
    exact .inr ⟨rfl, h⟩

/-- The code of a call is that of its definition. -/
theorem argument?_code (d : Definition Action) (as : List (Argument Location)) :
    (⟨d, delayAll as, c⟩ : Invocation Action).argument? "Code" =
      (codeArgument? d as).map delay := by
  rw [Invocation.argument?, codeArgument?, delayAll_eq_map]
  cases d.parameters.findIdx? (·.name == "Code") with
  | none => rfl
  | some index => exact List.getElem?_map ..

/-- The text that the code of a canvas gives is dropped. -/
theorem run_code {inner : Context Action} {d : Definition Action} {as : List (Argument Location)}
    {result : Except Fault (List String)}
    (h : (pieces (codeOf d as) inner).run w = (result, w')) :
    (match (codeArgument? d as).map delay with
      | some code => code.resolve inner >>= fun _ => return ""
      | none => return "" : Eval String).run w = (result.map fun _ => "", w') := by
  unfold codeOf at h
  cases hca : codeArgument? d as with
  | none =>
    rw [hca] at h
    cases h
    rfl
  | some b =>
    obtain ⟨nodes, source, span⟩ := b
    rw [hca] at h
    have hp : (pieces nodes inner).run w = (result, w') := h
    rw [Option.map_some, delay]
    dsimp only
    rw [Eval.run_bind, Eval.run_bind, hp]
    cases result <;> rfl

theorem mem_of_codeArgument? {d : Definition Action} {as : List (Argument Location)}
    {a : Argument Location} (h : codeArgument? d as = some a) : a ∈ as := by
  obtain ⟨index, -, ha⟩ := Option.bind_eq_some_iff.1 h
  exact List.mem_of_getElem? ha

/-- An argument ends as its nodes do. -/
theorem resolve_cases {a : Argument Location} {r : Except Fault String}
    (h : ((delay a : Delayed Action).resolve c).run w = (r, w')) :
    ∃ r', (pieces a.nodes c).run w = (r', w') ∧ faultOf r' = faultOf r := by
  obtain ⟨nodes, source, span⟩ := a
  rw [delay] at h
  rcases Eval.bind_cases h with ⟨texts, w₁, hp, h₁⟩ | ⟨fault, hp, rfl⟩
  · cases h₁
    exact ⟨_, hp, rfl⟩
  · exact ⟨_, hp, rfl⟩

theorem Resolves.run_validate {d : Definition Action} {as : List (Argument Location)}
    {result : Except Fault (List String)}
    (h : Resolves c d as w result w') :
    (Invocation.validate ⟨d, delayAll as, c⟩).run w = (result >>= d.validate, w') := by
  rw [Invocation.validate, Eval.run_bind, h]
  cases result <;> rfl

/-- The arguments of a call are evaluated and converted, or one of them fails. -/
theorem validate_cases {d : Definition Action} {as : List (Argument Location)}
    {r : Except Fault Arguments}
    (h : (Invocation.validate ⟨d, delayAll as, c⟩).run w = (r, w')) :
    (∃ raws, Resolves c d as w (.ok raws) w' ∧ d.validate raws = r) ∨
      ∃ fault, Resolves c d as w (.error fault) w' ∧ r = .error fault := by
  rcases Eval.bind_cases h with ⟨raws, w₁, hr, h₁⟩ | h₁
  · obtain ⟨hv, rfl⟩ := Eval.of_ofExcept h₁
    exact .inl ⟨raws, hr, hv⟩
  · exact .inr h₁

theorem validate_ok_iff {d : Definition Action} {as : List (Argument Location)} {a : Arguments} :
    (Invocation.validate ⟨d, delayAll as, c⟩).run w = (.ok a, w') ↔
      ∃ raws, Resolves c d as w (.ok raws) w' ∧ d.validate raws = .ok a := by
  constructor
  · intro h
    rcases validate_cases h with hok | ⟨fault, -, hf⟩
    · exact hok
    · cases hf
  · rintro ⟨raws, hr, hv⟩
    exact hr.run_validate.trans (congrArg (·, w') hv)

theorem ends_rawTexts {d : Definition Action} {arguments : List (Delayed Action)}
    {as : List (Argument Location)} (he : ∀ a ∈ as, Ended a.nodes) (index : Nat)
    {r : Except Fault (List String)}
    (h : ((⟨d, arguments, c⟩ : Invocation Action).rawTexts index (delayAll as)).run w = (r, w')) :
    Ends c (.arguments d index as) w (faultOf r) w' := by
  induction as generalizing index w r with
  | nil =>
    cases h
    exact .done
  | cons a as ih =>
    obtain ⟨hfirst, hrest⟩ := List.forall_mem_cons.1 he
    rcases Eval.bind_cases h with ⟨text, w₁, ht, h₁⟩ | ⟨fault, ht, rfl⟩
    · -- the texts of the other arguments decide how all of them end
      obtain ⟨r', hts, hr'⟩ : ∃ r' : Except Fault (List String),
          ((⟨d, arguments, c⟩ : Invocation Action).rawTexts (index + 1) (delayAll as)).run w₁ =
            (r', w') ∧ faultOf r = faultOf r' := by
        rcases Eval.bind_cases h₁ with ⟨texts, w₂, hts, h₂⟩ | ⟨fault, hts, rfl⟩
        · cases h₂
          exact ⟨_, hts, rfl⟩
        · exact ⟨_, hts, rfl⟩
      have hothers := ih hrest (index + 1) hts
      rw [← hr'] at hothers
      rcases rawText_cases ht with ⟨hs, -, rfl⟩ | ⟨hs, hr⟩
      · exact .script hs hothers
      · obtain ⟨r₁, hp, hr₁⟩ := resolve_cases hr
        have hends := hfirst c w r₁ w₁ hp
        rw [hr₁] at hends
        exact .resolved hs hends hothers
    · rcases rawText_cases ht with ⟨-, hr, -⟩ | ⟨hs, hr⟩
      · cases hr
      · obtain ⟨r₁, hp, hr₁⟩ := resolve_cases hr
        have hends := hfirst c w r₁ w' hp
        rw [hr₁] at hends
        exact .stuck hs hends

/-- A call of a command ends as its handler does. -/
theorem ends_called {n : Node Location} {name : String} {as : List (Argument Location)}
    {d : Definition Action} (he : ∀ a ∈ as, Ended a.nodes) (hn : called? n = some (name, as))
    (hd : c.lookup? name = some d) {r : Except Fault String}
    (h : (evaluateNode n c).run w = (r, w')) : Ends c (.node n) w (faultOf r) w' := by
  rw [evaluateNode_called hn hd] at h
  rcases handler_cases h with ⟨fault, hv, rfl⟩ | ⟨a, w₁, hv, hown⟩
  · rcases validate_cases hv with ⟨raws, hr, hvalid⟩ | ⟨fault', hr, hf⟩
    · exact .refused hn hd (ends_rawTexts he 0 hr) hr hvalid
    · cases hf
      exact .unresolved hn hd (ends_rawTexts he 0 hr)
  · rcases validate_cases hv with ⟨raws, hr, hvalid⟩ | ⟨fault', -, hf⟩
    · have hargs := ends_rawTexts he 0 hr
      rcases hown with hacts | ⟨ha, hopen⟩
      · exact .acts hn hd hargs hr hvalid hacts
      · rcases hopen with ⟨fault, ho, rfl⟩ | ⟨inner, w₂, ho, hcode⟩
        · rcases opening_cases ho with ⟨fault', hm, hf, rfl⟩ | ⟨_, _, _, _, -, hf, -⟩
          · cases hf
            exact .unopened hn hd ha hargs hr hvalid hm
          · cases hf
        · refine .opened hn hd ha hargs hr hvalid ho ?_
          rw [argument?_code] at hcode
          unfold codeOf
          cases hca : codeArgument? d as with
          | none =>
            rw [hca] at hcode
            rcases hcode with ⟨-, rfl, rfl⟩ | ⟨code, result, hcode, -⟩
            · exact .nil
            · cases hcode
          | some b =>
            rw [hca] at hcode
            rcases hcode with ⟨hcode, -⟩ | ⟨code, result, hcode, hrun, rfl⟩
            · cases hcode
            · cases hcode
              obtain ⟨r', hp, hr'⟩ := resolve_cases hrun
              have hends := he b (mem_of_codeArgument? hca) inner w₂ r' w' hp
              rw [hr'] at hends
              cases result <;> exact hends
    · cases hf

mutual

/-- However the evaluation of a node ends, it is one of these endings. -/
theorem ends_node : ∀ (n : Node Location) (c : Context Action) (w : World)
    (r : Except Fault String) (w' : World), (evaluateNode n c).run w = (r, w') →
    Ends c (.node n) w (faultOf r) w'
  | .text content, c, w, r, w', h => by
    cases h
    exact .text
  | .mention name span, c, w, r, w', h => by
    cases hd : c.lookup? name with
    | some d =>
      have hnone : ∀ a ∈ ([] : List (Argument Location)), Ended a.nodes := fun a ha => by cases ha
      exact ends_called hnone rfl hd h
    | none =>
      rw [evaluateNode, callByName, hd] at h
      cases h
      exact .mention hd
  | .call name as span, c, w, r, w', h => by
    cases hd : c.lookup? name with
    | some d => exact ends_called (ended_arguments as) rfl hd h
    | none =>
      rw [evaluateNode, callByName, hd] at h
      cases h
      exact .unknown hd

theorem ended_arguments : ∀ (as : List (Argument Location)), ∀ a ∈ as, Ended a.nodes
  | [], _, h => by cases h
  | ⟨nodes, _, _⟩ :: as, a, h => by
    rcases List.mem_cons.1 h with rfl | h
    · exact ends_pieces nodes
    · exact ended_arguments as a h

/-- However the evaluation of nodes ends, it is one of these endings. -/
theorem ends_pieces : ∀ ns : List (Node Location), Ended ns
  | [] => by
    intro c w r w' h
    cases h
    exact .nil
  | n :: ns => by
    intro c w r w' h
    rcases Eval.bind_cases h with ⟨text, w₁, hn, h₁⟩ | ⟨fault, hn, rfl⟩
    · have hfirst := ends_node n c w (.ok text) w₁ hn
      rcases Eval.bind_cases h₁ with ⟨texts, w₂, hns, h₂⟩ | ⟨fault, hns, rfl⟩
      · cases h₂
        exact .cons hfirst (ends_pieces ns c w₁ (.ok texts) w' hns)
      · exact .cons hfirst (ends_pieces ns c w₁ (.error fault) w' hns)
    · exact .stop (ends_node n c w (.error fault) w' hn)

end

/-- However the evaluation of the arguments of a call ends, it is one of these endings. -/
theorem Resolves.ends {d : Definition Action} {as : List (Argument Location)}
    {result : Except Fault (List String)} (h : Resolves c d as w result w') :
    Ends c (.arguments d 0 as) w (faultOf result) w' :=
  ends_rawTexts (ended_arguments as) 0 h

/-- A script cannot be read, or its evaluation is one of these endings. One that completes gives the
canvases that are there at the end. -/
theorem ends_evaluateScript {r : Registry Action} {config : Config} {source : String}
    {result : Except Fault Evaluation}
    (h : (evaluateScript r config source).run w = (result, w')) :
    (∃ fault, Script.read source = .error fault ∧ result = .error fault ∧ w' = w) ∨
      ∃ nodes, Script.read source = .ok nodes ∧
        Ends (Context.root r config) (.nodes nodes) w (faultOf result) w' ∧
        ∀ e, result = .ok e → e.canvases = w'.canvases := by
  -- what is handed over in the end does not depend on how the text is put together
  obtain ⟨output, he, hfault, hcanvases, ho⟩ : ∃ output,
      (evaluateSource source (Context.root r config)).run w = (output, w') ∧
        (∀ fault, output = .error fault → result = .error fault) ∧
        (∀ e, result = .ok e → e.canvases = w'.canvases) ∧
        faultOf result = faultOf output := by
    rcases Eval.bind_cases h with ⟨output, w₁, he, h₁⟩ | ⟨fault, he, rfl⟩
    · cases h₁
      exact ⟨_, he, nofun, fun e he => by cases he; rfl, rfl⟩
    · exact ⟨_, he, fun _ hf => by cases hf; rfl, nofun, rfl⟩
  rcases Eval.bind_cases he with ⟨nodes, w₁, hn, h₁⟩ | ⟨fault, hn, rfl⟩
  · obtain ⟨hread, rfl⟩ := Eval.of_ofExcept hn
    refine .inr ⟨nodes, hread, ?_, hcanvases⟩
    rw [ho]
    rcases Eval.bind_cases h₁ with ⟨texts, w₂, hp, h₂⟩ | ⟨fault, hp, rfl⟩
    · cases h₂
      exact ends_pieces nodes _ _ (.ok texts) _ hp
    · exact ends_pieces nodes _ _ (.error fault) _ hp
  · obtain ⟨hread, rfl⟩ := Eval.of_ofExcept hn
    exact .inl ⟨fault, hread, hfault fault rfl, rfl⟩

end CanvasScript.Standard
