import CanvasScript.Proofs.Command.Validation
import CanvasScript.Proofs.Picture.Saving
import CanvasScript.Proofs.Standard.Frames

/-!
# What can go wrong with a script

A script that can be read fails with a fault of one of its calls, or not at all. A call cannot miss
its canvas, since the commands that need one can only be seen where there is one; and the words for
alignments, outlines and weights are checked before a command gets to see them.

* `Trusty`: what this means for a registry.

Results:
* `parse_of_offers`: the words that a command is given can be converted.
* `faultsAre_change`, `faultsAre_measures`: a command is at fault for nothing but its arguments.
* `ofCall_of_effect`, `Ends.ofCall`: an own step, and an evaluation, ends with a fault of a call.
* `trusty_registry`: whatever is switched off, the standard commands are trusty.
-/

namespace CanvasScript.Standard

open Canvas Command Run Script Settings

/-! ## Words -/

/-- A word for a choice stands for one. -/
theorem parseChoice_of_mem {β : Type} {what : String} {choices : List β} {name : β → String}
    {s : String} (h : s ∈ choices.map name) : ∃ b, parseChoice what choices name s = .ok b := by
  obtain ⟨b, hb, rfl⟩ := List.mem_map.1 h
  unfold parseChoice
  cases hf : choices.find? (name · == name b) with
  | some b' => exact ⟨b', rfl⟩
  | none =>
    have hne := List.find?_eq_none.1 hf b hb
    exact absurd (beq_self_eq_true (name b)) hne

variable {d : Definition Action} {raws : List String} {a : Arguments}

theorem offers_align : ∀ d ∈ definitions, d.action = .addText →
    d.Offers "Align" (TextAlign.all.map TextAlign.name) := by
  decide +kernel

theorem offers_kind : ∀ d ∈ definitions, d.action = .createOutline →
    d.Offers "Type" (OutlineKind.all.map OutlineKind.name) := by
  decide +kernel

theorem offers_weight : ∀ d ∈ definitions, d.action = .loadFont →
    d.Offers "Weight" (FontWeight.all.map FontWeight.name) := by
  decide +kernel

/-- What a command is given for a choice of words stands for one of the choices. -/
theorem parse_of_offers {β : Type} {what parameter : String} {choices : List β}
    {name : β → String} (ho : d.Offers parameter (choices.map name))
    (hv : d.validate raws = .ok a) :
    ∃ b, (a.string parameter >>= parseChoice what choices name) = .ok b := by
  obtain ⟨s, hs, hstring⟩ := Definition.string_of_offers ho hv
  rw [hstring]
  exact parseChoice_of_mem hs

/-! ## Arguments -/

theorem argumentsOf_integer (a : Arguments) (name : String) :
    FaultsAre (Fault.ArgumentOf a.command) (a.integer name) := by
  unfold Arguments.integer
  split
  · exact .ok _
  · exact .error (.argument ..)

theorem faultsAre_integer (a : Arguments) (name : String) :
    FaultsAre Fault.OfArgument (a.integer name) :=
  (argumentsOf_integer a name).mono Fault.ArgumentOf.ofArgument

theorem faultsAre_float (a : Arguments) (name : String) :
    FaultsAre Fault.OfArgument (a.float name) := by
  unfold Arguments.float
  split
  · exact .ok _
  · exact .ok _
  · exact .error (.argument ..)

theorem faultsAre_boolean (a : Arguments) (name : String) :
    FaultsAre Fault.OfArgument (a.boolean name) := by
  unfold Arguments.boolean
  split
  · exact .ok _
  · exact .error (.argument ..)

theorem faultsAre_string (a : Arguments) (name : String) :
    FaultsAre Fault.OfArgument (a.string name) := by
  unfold Arguments.string
  split
  · exact .ok _
  · exact .error (.argument ..)

theorem faultsAre_colour (a : Arguments) (name : String) :
    FaultsAre Fault.OfArgument (a.colour name) := by
  unfold Arguments.colour
  split
  · exact .ok _
  · exact .error (.argument ..)

theorem faultsAre_single (a : Arguments) (name : String) :
    FaultsAre Fault.OfArgument (single a name) :=
  (faultsAre_float a name).bind fun _ _ => .ok _

theorem faultsAre_coordinate (a : Arguments) (name : String) :
    FaultsAre Fault.OfArgument (coordinate a name) :=
  (faultsAre_integer a name).bind fun _ _ => .ite (.ok _) (.error (.argument ..))

theorem faultsAre_size (a : Arguments) (name : String) :
    FaultsAre Fault.OfArgument (size a name) :=
  (faultsAre_integer a name).bind fun _ _ => .ite (.ok _) (.error (.argument ..))

/-- A size that is none is reported by the command itself. -/
theorem faultsAre_measures (a : Arguments) :
    FaultsAre (Fault.ArgumentOf a.command) (measures a) := by
  have hdimension : ∀ name, FaultsAre (Fault.ArgumentOf a.command) (dimension a name) := fun name =>
    (argumentsOf_integer a name).bind fun _ _ => .ite (.ok _) (.error (.argument ..))
  exact (hdimension _).bind fun _ _ => (hdimension _).bind fun _ _ => .ok _

/-! ## Layers -/

theorem faultsAre_paint (a : Arguments) : FaultsAre Fault.OfArgument (paint a) :=
  (faultsAre_colour a _).bind fun _ _ => (faultsAre_boolean a _).bind fun _ _ =>
    (faultsAre_single a _).bind fun _ _ => .ok _

theorem faultsAre_boxSize (a : Arguments) : FaultsAre Fault.OfArgument (boxSize a) :=
  (faultsAre_size a _).bind fun _ _ => (faultsAre_size a _).bind fun _ _ =>
    (faultsAre_size a _).bind fun _ _ => .ok _

theorem faultsAre_arc (a : Arguments) : FaultsAre Fault.OfArgument (arc a) :=
  (faultsAre_size a _).bind fun _ _ => (faultsAre_paint a).bind fun _ _ =>
    (faultsAre_single a _).bind fun _ _ => (faultsAre_single a _).bind fun _ _ => .ok _

theorem faultsAre_circle (a : Arguments) : FaultsAre Fault.OfArgument (circle a) :=
  (faultsAre_size a _).bind fun _ _ => (faultsAre_paint a).bind fun _ _ => .ok _

theorem faultsAre_ellipse (a : Arguments) : FaultsAre Fault.OfArgument (ellipse a) :=
  (faultsAre_boxSize a).bind fun _ _ => (faultsAre_paint a).bind fun _ _ => .ok _

theorem faultsAre_ellipseImage (a : Arguments) : FaultsAre Fault.OfArgument (ellipseImage a) :=
  (faultsAre_boxSize a).bind fun _ _ => (faultsAre_string a _).bind fun _ _ => .ok _

/-- The last thing that can go wrong with a text is its alignment. -/
theorem faultsAre_lettering {align : TextAlign}
    (h : (a.string "Align" >>= TextAlign.parse) = .ok align) :
    FaultsAre Fault.OfArgument (lettering a) := by
  refine (faultsAre_string a _).bind fun font _ => (faultsAre_single a _).bind fun size _ =>
    (faultsAre_colour a _).bind fun colour _ => (faultsAre_string a _).bind fun text _ => ?_
  obtain ⟨word, hword, hparse⟩ := of_bind_ok h
  rw [hword]
  change FaultsAre _ (TextAlign.parse word >>= _)
  rw [hparse]
  exact .ok _

theorem faultsAre_layerChange {shape : Arguments → Except Fault Shape}
    (hs : FaultsAre Fault.OfArgument (shape a)) (c : Canvas) (ids : IdSupply) :
    FaultsAre Fault.OfArgument (layerChange shape a c ids) := by
  have hcheck : ∀ s : Shape, FaultsAre Fault.OfArgument s.check := by
    intro s
    unfold Shape.check
    split
    · exact .error (.argument ..)
    · exact .ok _
  exact hs.bind fun s _ => (faultsAre_coordinate a _).bind fun x _ =>
    (faultsAre_coordinate a _).bind fun y _ =>
      FaultsAre.bind ((hcheck s).bind fun _ _ => .ok _) fun _ _ => .ok _

/-! ## Outlines and fonts -/

theorem faultsAre_outline {kind : OutlineKind}
    (h : (a.string "Type" >>= OutlineKind.parse) = .ok kind) :
    FaultsAre Fault.OfArgument (outline a) := by
  have hopacity : FaultsAre Fault.OfArgument (opacity a) :=
    (faultsAre_integer a _).bind fun _ _ => .ite (.ok _) (.error (.argument ..))
  refine hopacity.bind fun alpha _ => (faultsAre_size a _).bind fun stroke _ =>
    (faultsAre_string a _).bind fun id _ => ?_
  obtain ⟨word, hword, hparse⟩ := of_bind_ok h
  rw [hword]
  change FaultsAre _ (OutlineKind.parse word >>= _)
  rw [hparse]
  exact (faultsAre_colour a _).bind fun colour _ =>
    .ite (.error (.argument ..)) (.ite (.error (.argument ..)) (.ok _))

theorem faultsAre_font {weight : FontWeight}
    (h : (a.string "Weight" >>= FontWeight.parse) = .ok weight) :
    FaultsAre Fault.OfArgument (font a) := by
  refine (faultsAre_string a _).bind fun family _ => (faultsAre_string a _).bind fun path _ => ?_
  obtain ⟨word, hword, hparse⟩ := of_bind_ok h
  rw [hword]
  change FaultsAre _ (FontWeight.parse word >>= _)
  rw [hparse]
  exact FaultsAre.ite (.error (.argument ..)) (.ite (.error (.argument ..)) (.ok _))

/-- A change of the canvas is refused for nothing but its arguments. -/
theorem faultsAre_change (hd : d ∈ definitions) {f : Arguments → Change}
    (hf : d.action.change? = some f) (hv : d.validate raws = .ok a) (c : Canvas) (ids : IdSupply) :
    FaultsAre Fault.OfArgument (f a c ids) := by
  cases ha : d.action with
  | setVariable | getVariable | createCanvas | renderCanvas =>
    rw [ha] at hf
    cases hf
  | addArc =>
    rw [ha] at hf
    cases hf
    exact faultsAre_layerChange (faultsAre_arc a) c ids
  | addCircle =>
    rw [ha] at hf
    cases hf
    exact faultsAre_layerChange (faultsAre_circle a) c ids
  | addEllipse =>
    rw [ha] at hf
    cases hf
    exact faultsAre_layerChange (faultsAre_ellipse a) c ids
  | addEllipseImage =>
    rw [ha] at hf
    cases hf
    exact faultsAre_layerChange (faultsAre_ellipseImage a) c ids
  | addText =>
    rw [ha] at hf
    cases hf
    obtain ⟨align, halign⟩ := parse_of_offers (offers_align d hd ha) hv
    exact faultsAre_layerChange (faultsAre_lettering halign) c ids
  | createOutline =>
    rw [ha] at hf
    cases hf
    obtain ⟨kind, hkind⟩ := parse_of_offers (offers_kind d hd ha) hv
    exact (faultsAre_outline hkind).bind fun _ _ => .ok _
  | loadFont =>
    rw [ha] at hf
    cases hf
    obtain ⟨weight, hweight⟩ := parse_of_offers (offers_weight d hd ha) hv
    exact (faultsAre_font hweight).bind fun _ _ => .ok _

/-! ## Evaluations -/

/-- The commands that need a canvas are scoped under another one. -/
theorem parent?_ne_none : ∀ d ∈ definitions,
    (d.action = .renderCanvas ∨ d.action.change?.isSome = true) → d.parent? ≠ none := by
  decide

/-- An own step ends with a fault of a call, where its context belongs into the world. -/
theorem ofCall_of_effect {c : Context Action} {w w' : World} {name : String} (hf : Fit c w)
    (hd : c.lookup? name = some d) (hv : d.validate raws = .ok a) {fault : Fault}
    (h : Effect c d a w (some fault) w') : fault.OfCall := by
  generalize ho : some fault = o at h
  have hmem := (of_lookup? hf.standard hd).1
  cases h with
  | «variable» hdv hs hfaults =>
    obtain ⟨expected, received, rfl⟩ := hfaults fault ho.symm
    exact .argument (.argument ..)
  | pathless hdr hp =>
    cases ho
    exact Fault.OfCall.inCommand (.argument (faultsAre_string a _ _ hp)) d.name
  | stray hds hc command reason =>
    obtain ⟨n, s, hn, hs, hidle⟩ := hf.scoped hd (parent?_ne_none d hmem hds)
    rw [hc n s hn hs] at hidle
    cases hidle
  | changes | renders => cases ho
  | refuses hdc hn hs hchange =>
    cases ho
    exact Fault.OfCall.inCommand (.argument (faultsAre_change hmem hdc hv _ _ _ hchange)) d.name
  | unrendered hdr hn hs path hr =>
    cases ho
    refine Fault.OfCall.inCommand (.picture ?_) d.name
    exact Picture.savingFaultsAre_saveCanvas _ path w.files _ (congrArg Prod.fst hr)

/-- An evaluation that fails fails with a fault of a call. -/
theorem Ends.ofCall {c : Context Action} {t : Task} {w w' : World} {o : Option Fault}
    (h : Ends c t w o w') (hf : Fit c w) {fault : Fault} (ho : o = some fault) : fault.OfCall := by
  induction h with
  | text | mention | nil | done => cases ho
  | unknown h =>
    cases ho
    exact .unknownCommand ..
  | unresolved hn hd hargs ih => exact ih hf ho
  | refused hn hd hargs hr hv ih =>
    cases ho
    exact .argument (Definition.faultsAre_validate _ _ _ hv).ofArgument
  | acts hn hd hargs hr hv ha ih =>
    subst ho
    exact ofCall_of_effect (hargs.fit hf) hd hv (effect_of_acts ha)
  | unopened hn hd ha hargs hr hv hm ih =>
    cases ho
    exact .argument (faultsAre_measures _ _ hm).ofArgument
  | opened hn hd ha hargs hr hv hop hcode ih ih' =>
    exact ih' ((hargs.fit hf).opening ha hop) ho
  | stop hn ih => exact ih hf ho
  | cons hn hns ih ih' => exact ih' (hn.fit hf) ho
  | script hs has ih | stuck hs has ih => exact ih hf ho
  | resolved hs ha has ih ih' => exact ih' (ha.fit hf) ho

/-! ## Whole scripts -/

/-- A script that cannot be read is reported as such. -/
theorem faultsAre_read (source : String) :
    FaultsAre (fun fault => ∃ f, fault = .parse f) (Script.read source) := by
  rcases read_cases source with ⟨nodes, -, hread⟩ | ⟨failure, l, -, hread⟩
  · exact hread ▸ .ok _
  · refine hread ▸ .error ?_
    cases failure with
    | unclosed name start => exact ⟨_, rfl⟩
    | tooDeep name start => exact ⟨_, rfl⟩

/-- Scripts over the registry fail for nothing that they are not to blame for. -/
structure Trusty (r : Registry Action) : Prop where
  /-- Once the arguments of a call are evaluated, a command that is scoped under another one finds a
  canvas that nothing else is editing. -/
  onCanvas : ∀ settings nodes files ids c n w name as d result w₁,
    Arrives (Context.root r settings) (.nodes nodes) { files, ids } c n w →
    called? n = some (name, as) → c.lookup? name = some d → d.parent? ≠ none →
    Resolves c d as w result w₁ →
    ∃ k s, c.canvas? = some k ∧ w₁.slots[k]? = some s ∧ s.busy = false
  /-- The words that a command is given stand for alignments, kinds of outlines, and weights. -/
  words : ∀ d ∈ r.list, ∀ raws a, d.validate raws = .ok a →
    (d.action = .addText → ∃ align, (a.string "Align" >>= TextAlign.parse) = .ok align) ∧
    (d.action = .createOutline → ∃ kind, (a.string "Type" >>= OutlineKind.parse) = .ok kind) ∧
    (d.action = .loadFont → ∃ weight, (a.string "Weight" >>= FontWeight.parse) = .ok weight)
  /-- No script is refused for scopes, definitions, settings, or the system. -/
  faults : ∀ settings source files ids fault,
    ((evaluateScript r settings source).run { files, ids }).1 = .error fault →
    (∀ command reason, fault ≠ .scope command reason) ∧ (∀ f, fault ≠ .definition f) ∧
      (∀ f, fault ≠ .config f) ∧ ∀ reason, fault ≠ .system reason
  /-- What cannot be read, and only that, is refused as a script. -/
  unreadable : ∀ settings source files ids,
    (∃ f, ((evaluateScript r settings source).run { files, ids }).1 = .error (.parse f)) ↔
      ∃ fault, Script.read source = .error fault

/-- A script fails as its text does, or as one of its calls. -/
theorem fault_cases {config settings : Config} {r : Registry Action}
    (hr : registry config = .ok r) {source : String} {files : Storage.FileSystem}
    {ids : IdSupply} {fault : Fault}
    (h : ((evaluateScript r settings source).run { files, ids }).1 = .error fault) :
    Script.read source = .error fault ∨ fault.OfCall := by
  rcases hrun : (evaluateScript r settings source).run { files, ids } with ⟨result, w'⟩
  rw [hrun] at h
  cases h
  rcases ends_evaluateScript hrun with ⟨fault', hread, hf, -⟩ | ⟨nodes, -, hends, -⟩
  · cases hf
    exact .inl hread
  · exact .inr (hends.ofCall (fit_root hr files ids) rfl)

/-- **Scripts go wrong only by their own fault**: whatever commands are switched off, the standard
commands are there, and none of them is called where it cannot work. -/
theorem trusty_registry (config : Config) : ∃ r, registry config = .ok r ∧ Trusty r := by
  have hr := registry_eq config
  refine ⟨_, hr, ?_, ?_, ?_, ?_⟩
  · intro settings nodes files ids c n w name as d result w₁ harrives hn hd hp hresolves
    exact (hresolves.ends.fit (harrives.fit (fit_root hr files ids))).scoped hd hp
  · intro d hd raws a hv
    have hmem : d ∈ definitions := of_mem_values (allFiled_registry hr) hd
    exact ⟨fun ha => parse_of_offers (offers_align d hmem ha) hv,
      fun ha => parse_of_offers (offers_kind d hmem ha) hv,
      fun ha => parse_of_offers (offers_weight d hmem ha) hv⟩
  · intro settings source files ids fault h
    rcases fault_cases hr h with hread | hcall
    · obtain ⟨f, rfl⟩ := faultsAre_read source fault hread
      exact ⟨nofun, nofun, nofun, nofun⟩
    · cases hcall with
      | argument h =>
        cases h
        exact ⟨nofun, nofun, nofun, nofun⟩
      | picture h => cases h <;> exact ⟨nofun, nofun, nofun, nofun⟩
      | unknownCommand => exact ⟨nofun, nofun, nofun, nofun⟩
  · intro settings source files ids
    constructor
    · rintro ⟨f, h⟩
      rcases fault_cases hr h with hread | hcall
      · exact ⟨_, hread⟩
      · cases hcall with
        | argument h => cases h
        | picture h => cases h
    · rintro ⟨fault, hread⟩
      obtain ⟨f, rfl⟩ := faultsAre_read source fault hread
      refine ⟨f, ?_⟩
      rcases ends_evaluateScript (r := _) rfl with ⟨fault, hread', hresult, -⟩ | ⟨nodes, hnodes, -⟩
      · cases hread.symm.trans hread'
        exact hresult
      · cases hread.symm.trans hnodes

end CanvasScript.Standard
