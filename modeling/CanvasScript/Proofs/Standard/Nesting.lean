import CanvasScript.Proofs.Standard.Frames

/-!
# Canvases within canvases

A call that creates a canvas evaluates its arguments, opens the canvas, and runs its code. The code
may create further canvases, whose arguments may again add layers to the first one, and it may fail
at any place. None of this reaches the canvases that were there before.

* `SkipsCode`: the code of a call is not evaluated.
* `Framed`: what such a call does and does not do.

Results:
* `run_createCanvas`: a call that creates a canvas, as its arguments and its code.
* `skipsCode_of_error`: the code is not evaluated unless the arguments are, and say a size.
* `createCanvas_framed`: all these calls are framed, wherever they stand.
-/

namespace CanvasScript.Standard

open Canvas Command Run Script Settings

variable {c : Context Action} {w w₁ : World} {node : Node Location} {name : String}
  {as : List (Argument Location)} {d : Definition Action}

/-! ## Calls that create a canvas -/

theorem run_opening_of_error {a : Arguments} {fault : Fault} (h : measures a = .error fault) :
    (opening c d a).run w = (.error fault, w) := by
  rcases hrun : (opening c d a).run w with ⟨r, w'⟩
  rcases opening_cases hrun with ⟨fault', hm, rfl, rfl⟩ | ⟨width, height, id, ids, hm, -⟩
  · cases h.symm.trans hm
    rfl
  · cases h.symm.trans hm

theorem run_opening_of_ok {a : Arguments} {width height : Nat}
    (h : measures a = .ok (width, height)) :
    ∃ id ids, (opening c d a).run w =
      (.ok { c.loadScoped d.name with canvas? := some w.slots.length },
        { w with ids, slots := w.slots ++ [{ canvas := { id, width, height } }] }) := by
  rcases hrun : (opening c d a).run w with ⟨r, w'⟩
  rcases opening_cases hrun with ⟨fault', hm, -⟩ | ⟨width', height', id, ids, hm, rfl, rfl⟩
  · cases h.symm.trans hm
  · cases h.symm.trans hm
    exact ⟨id, ids, rfl⟩

/-- A call that creates a canvas, once its arguments are evaluated. -/
theorem run_createCanvas (hn : called? node = some (name, as)) (hd : c.lookup? name = some d)
    (ha : d.action = .createCanvas) {result : Except Fault (List String)}
    (hr : Resolves c d as w result w₁) :
    (evaluateNode node c).run w =
      (Eval.ofExcept (result >>= d.validate) >>= fun a => opening c d a >>= fun inner =>
        match (codeArgument? d as).map delay with
        | some code => code.resolve inner >>= fun _ => return ""
        | none => return "" : Eval String).run w₁ := by
  have hh : (d.action.handler : Handler Action) = .deferred createCanvas := by
    rw [ha]
    rfl
  rw [evaluateNode_called hn hd, hh, Handler.run, createCanvas_eq, Eval.run_bind, Eval.run_bind,
    hr.run_validate, argument?_code]
  rfl

/-- The arguments fail or are refused, or they say no size of a canvas. -/
theorem run_createCanvas_of_error (hn : called? node = some (name, as))
    (hd : c.lookup? name = some d) (ha : d.action = .createCanvas)
    {result : Except Fault (List String)} (hr : Resolves c d as w result w₁) {fault : Fault}
    (hm : (result >>= d.validate >>= measures) = .error fault) :
    (evaluateNode node c).run w = (.error fault, w₁) := by
  rw [run_createCanvas hn hd ha hr, Eval.run_bind, Eval.run_ofExcept]
  cases hv : result >>= d.validate with
  | error fault' =>
    rw [hv] at hm
    cases hm
    rfl
  | ok a =>
    rw [hv] at hm
    have hopen : (opening c d a).run w₁ = (.error fault, w₁) := run_opening_of_error hm
    dsimp only
    rw [Eval.run_bind, hopen]

/-- A canvas is opened, and the code is run on it. -/
theorem run_createCanvas_of_ok (hn : called? node = some (name, as))
    (hd : c.lookup? name = some d) (ha : d.action = .createCanvas) {raws : List String}
    (hr : Resolves c d as w (.ok raws) w₁) {width height : Nat}
    (hm : (d.validate raws >>= measures) = .ok (width, height)) :
    ∃ id ids, ∀ result w', (pieces (codeOf d as)
      { c.loadScoped d.name with canvas? := some w₁.slots.length }).run
        { w₁ with ids, slots := w₁.slots ++ [{ canvas := { id, width, height } }] } =
          (result, w') →
      (evaluateNode node c).run w = (result.map fun _ => "", w') := by
  obtain ⟨a, hv, hm⟩ := of_bind_ok hm
  obtain ⟨id, ids, ho⟩ := run_opening_of_ok (c := c) (d := d) (w := w₁) hm
  have hvalid : (Except.ok raws >>= d.validate) = Except.ok a := hv
  refine ⟨id, ids, fun result w' hcode => ?_⟩
  rw [run_createCanvas hn hd ha hr, Eval.run_bind, Eval.run_ofExcept, hvalid]
  dsimp only
  rw [Eval.run_bind, ho]
  exact run_code hcode

/-! ## What such a call does not do -/

/-- The arguments of a call are come to one by one, those taken as scripts left out. -/
theorem Arrives.of_arguments {index : Nat} {c' : Context Action} {n' : Node Location} {w' : World}
    (h : Arrives c (.arguments d index as) w c' n' w') :
    ∃ k a w₁, as[k]? = some a ∧ takesScript d (index + k) = false ∧
      Arrives c (.nodes a.nodes) w₁ c' n' w' := by
  induction as generalizing index w with
  | nil => cases h
  | cons b as ih =>
    have htail : ∀ w₁, Arrives c (.arguments d (index + 1) as) w₁ c' n' w' →
        ∃ k a w₁, (b :: as)[k]? = some a ∧ takesScript d (index + k) = false ∧
          Arrives c (.nodes a.nodes) w₁ c' n' w' := by
      intro w₁ h
      obtain ⟨k, a, w₂, ha, hs, h⟩ := ih h
      refine ⟨k + 1, a, w₂, ha, ?_, h⟩
      rwa [Nat.add_assoc, Nat.add_comm 1 k] at hs
    cases h with
    | script hs h | later hs ha h => exact htail _ h
    | current hs h => exact ⟨0, b, w, rfl, hs, h⟩

/-- The code of a call is not evaluated: everything that the evaluation comes to is the call itself,
or stands in another one of its arguments. -/
def SkipsCode (c : Context Action) (node : Node Location) (d : Definition Action)
    (as : List (Argument Location)) (w : World) : Prop :=
  ∀ c' n' w', Arrives c (.node node) w c' n' w' →
    (c' = c ∧ n' = node ∧ w' = w) ∨
      ∃ index a w₁, as[index]? = some a ∧
        d.parameters.findIdx? (·.name == "Code") ≠ some index ∧
        Arrives c (.nodes a.nodes) w₁ c' n' w'

/-- The code is not evaluated unless the arguments are, and say a size. -/
theorem skipsCode_of_error (hc : IsStandard c) (hn : called? node = some (name, as))
    (hd : c.lookup? name = some d) (ha : d.action = .createCanvas)
    {result : Except Fault (List String)} (hr : Resolves c d as w result w₁) {fault : Fault}
    (hm : (result >>= d.validate >>= measures) = .error fault) : SkipsCode c node d as w := by
  intro c' n' w' h
  cases h with
  | here => exact .inl ⟨rfl, rfl, rfl⟩
  | argument hn' hd' h =>
    cases hn.symm.trans hn'
    cases hd.symm.trans hd'
    obtain ⟨k, a, w₂, hk, hs, h⟩ := h.of_arguments
    refine .inr ⟨k, a, w₂, hk, ?_, h⟩
    have hmem := (of_lookup? hc hd).1
    rw [(findIdx?_code d hmem ha).2]
    rintro hcode
    cases hcode
    rw [(takesScript_iff hmem _).2 ⟨ha, rfl⟩] at hs
    cases hs
  | code hn' hd' ha' hr' hv ho h =>
    cases hn.symm.trans hn'
    cases hd.symm.trans hd'
    cases hr.symm.trans hr'
    have hm : (d.validate _ >>= measures) = .error fault := hm
    rw [hv] at hm
    cases ho.symm.trans (run_opening_of_error hm)

/-- What a call that creates a canvas does. -/
structure Framed (c : Context Action) (node : Node Location) (d : Definition Action)
    (as : List (Argument Location)) (w : World) : Prop where
  /-- The canvas of the context was opened before the arguments are evaluated. -/
  present : ∀ k, c.canvas? = some k → k < w.slots.length
  /-- If an argument fails, or the arguments are refused, or they say no size, then nothing is done
  but to evaluate them. -/
  refused : ∀ result w₁ fault, Resolves c d as w result w₁ →
    (result >>= d.validate >>= measures) = .error fault →
    (evaluateNode node c).run w = (.error fault, w₁) ∧ SkipsCode c node d as w
  /-- Otherwise a canvas of the size is opened behind the others, and the code is evaluated in a
  context of its own. Whether it completes or fails, the other canvases are as they were before it,
  the new one stands behind them in its size, and those that the code has opened come last. What
  follows the call is evaluated in the context of the call. -/
  opened : ∀ raws w₁ width height, Resolves c d as w (.ok raws) w₁ →
    (d.validate raws >>= measures) = .ok (width, height) →
    w.slots.length ≤ w₁.slots.length ∧
      ∃ id ids, ∀ result w', (pieces (codeOf d as)
        { c.loadScoped d.name with canvas? := some w₁.slots.length }).run
          { w₁ with ids, slots := w₁.slots ++ [{ canvas := { id, width, height } }] } =
            (result, w') →
        (evaluateNode node c).run w = (result.map fun _ => "", w') ∧
          (∃ s later, w'.slots = w₁.slots ++ s :: later ∧
            SameFrame { id, width, height } s.canvas) ∧
          ∀ texts, result = .ok texts → ∀ ns, (pieces (node :: ns) c).run w =
            (pieces ns c >>= fun texts => return "" :: texts : Eval (List String)).run w'

/-- **The code of a canvas reaches no other canvas**: wherever a call that creates a canvas stands,
it leaves the canvases that are there once its arguments are evaluated as they are, whatever its
code does and wherever it fails. -/
theorem createCanvas_framed {config : Config} {r : Registry Action}
    (hr : registry config = .ok r) {nodes : List (Node Location)} {files : Storage.FileSystem}
    {ids : IdSupply}
    (h : Arrives (Context.root r config) (.nodes nodes) { files, ids } c node w)
    (hn : called? node = some (name, as)) (hd : c.lookup? name = some d)
    (ha : d.action = .createCanvas) : Framed c node d as w where
  present := (h.fit (fit_root hr files ids)).present
  refused result w₁ fault hres hm :=
    ⟨run_createCanvas_of_error hn hd ha hres hm,
      skipsCode_of_error (h.fit (fit_root hr files ids)).standard hn hd ha hres hm⟩
  opened raws w₁ width height hres hm := by
    obtain ⟨id, ids', hrun⟩ := run_createCanvas_of_ok hn hd ha hres hm
    refine ⟨hres.ends.keeps.length_le, id, ids', fun result w' hcode => ?_⟩
    have hcall := hrun result w' hcode
    have hkeeps := (ends_pieces _ _ _ _ _ hcode).keeps
    refine ⟨hcall, hkeeps.surrounds rfl, fun texts ht ns => ?_⟩
    subst ht
    rw [pieces, Eval.run_bind, hcall]
    rfl

/-- Only the first one of the commands for canvases creates them. -/
theorem eq_of_createCanvas (h : d ∈ definitions) (ha : d.action = .createCanvas) :
    d ∈ canvases.head? := by
  have hfilter : definitions.filter (·.action = .createCanvas) = canvases.head?.toList := by
    rfl
  have hmem : d ∈ definitions.filter (·.action = .createCanvas) :=
    List.mem_filter.2 ⟨h, decide_eq_true ha⟩
  rw [hfilter] at hmem
  exact Option.mem_toList.1 hmem

/-- A canvas is created on another one, with code that opens a third one before it fails. -/
theorem createCanvas_framed_nested :
    let span : Span Location := ⟨.start, .start⟩
    let argument := fun nodes => (⟨nodes, "", span⟩ : Argument Location)
    let word := fun content => argument [.text content]
    let creating := fun width height nodes => [word width, word height, argument nodes]
    let failing := creating "2" "3"
      [.call "$createCanvas" (creating "4" "5" []) span, .call "$none" [] span]
    let inner := Node.call "$createCanvas" failing span
    let outer := Node.call "$createCanvas" (creating "1" "1" [inner]) span
    let files := Storage.FileSystem.ofWorking []
    let ids : IdSupply := { stamp := fun _ => 0, digit := fun _ _ => 0 }
    ∃ r c d w, registry {} = .ok r ∧
      Arrives (Context.root r {}) (.nodes [outer]) { files, ids } c inner w ∧
      c.canvas? = some 0 ∧ c.lookup? "$createCanvas" = some d ∧ d.action = .createCanvas ∧
      Framed c inner d failing w := by
  intro span argument word creating failing inner outer files ids
  have hr := registry_default
  let root := Context.root (Registry.empty.load definitions).1 {}
  let c := { root.loadScoped canvasScope with canvas? := some 0 }
  have hroot : (root.lookup? "$createCanvas").map (·.action) = some .createCanvas := by
    decide +kernel
  have hinner : (c.lookup? "$createCanvas").map (·.action) = some .createCanvas := by
    decide +kernel
  obtain ⟨d, hroot, ha⟩ := Option.map_eq_some_iff.1 hroot
  obtain ⟨d', hinner, ha'⟩ := Option.map_eq_some_iff.1 hinner
  have hd := eq_of_createCanvas (of_lookup? (isStandard_root hr) hroot).1 ha
  have hmeasures : (d.validate ["1", "1", ""] >>= measures).toOption = some (1, 1) := by
    cases hd
    decide +kernel
  obtain ⟨a, hv, hm⟩ := of_bind_ok (eq_ok_of_toOption hmeasures)
  obtain ⟨w, harrives⟩ : ∃ w, Arrives root (.nodes [outer]) { files, ids } c inner w := by
    cases hd
    obtain ⟨id, ids', ho⟩ := run_opening_of_ok (w := { files, ids }) hm
    exact ⟨_, .first (.code rfl hroot rfl rfl hv ho (.first .here))⟩
  exact ⟨_, c, d', w, hr, harrives, rfl, hinner, ha',
    createCanvas_framed hr harrives rfl hinner ha'⟩

end CanvasScript.Standard
