import CanvasScript.Proofs.Script.Parts
import CanvasScript.Proofs.Standard.Commands

/-!
# Registries that agree on a script

Settings can switch off commands. A script that names none of them is evaluated as if nothing had
been switched off, wherever it opens scopes and however it ends.

* `Alike`: two contexts over two registries. The same scopes are open in them, they work on the same
  canvas, and they save images in the same place.

Results:
* `Alike.lookup?_eq`: a name that both registries have, or neither, is looked up alike.
* `evaluateNode_alike`, `pieces_alike`: nodes are evaluated alike.
* `evaluateScript_alike`: so is a whole script.
-/

namespace CanvasScript.Standard

open Canvas Command Run Script Settings

variable {r r' : Registry Action} {name : String}

/-! ## Contexts over two registries -/

/-- The same scopes are open in the contexts, they have the same canvas, and they save images in the
same place. -/
structure Alike (r r' : Registry Action) (c c' : Context Action) : Prop where
  sees : ∃ opened, Sees r opened c ∧ Sees r' opened c'
  canvas? : c.canvas? = c'.canvas?
  output : c.config.output = c'.config.output

namespace Alike

variable {c c' : Context Action}

theorem root (hr : Stock r) (hr' : Stock r') {config config' : Config}
    (h : config.output = config'.output) :
    Alike r r' (Context.root r config) (Context.root r' config') where
  sees := ⟨_, .root hr.consistent config, .root hr'.consistent config'⟩
  canvas? := rfl
  output := h

/-- The code of a canvas is run in contexts that are alike, too. -/
theorem opening (hr : Stock r) (hr' : Stock r') (h : Alike r r' c c') (parent : String) (n : Nat) :
    Alike r r' { c.loadScoped parent with canvas? := some n }
      { c'.loadScoped parent with canvas? := some n } where
  sees := by
    obtain ⟨opened, hsees, hsees'⟩ := h.sees
    have hin := hsees.loadScoped hr.consistent parent
    have hin' := hsees'.loadScoped hr'.consistent parent
    exact ⟨_, ⟨hin.registry, hin.find?_iff⟩, ⟨hin'.registry, hin'.find?_iff⟩⟩
  canvas? := rfl
  output := h.output

/-- A name that both registries have, or neither, is looked up alike. -/
theorem lookup?_eq (hr : Stock r) (hr' : Stock r') (h : Alike r r' c c')
    (hn : r.get? name = r'.get? name) : c.lookup? name = c'.lookup? name := by
  obtain ⟨opened, hsees, hsees'⟩ := h.sees
  have hfiled : AllFiled (· ∈ definitions) c.commands :=
    fun k d hd => hr.standard k d ((hsees.find?_iff k d).1 hd).1
  have hfiled' : AllFiled (· ∈ definitions) c'.commands :=
    fun k d hd => hr'.standard k d ((hsees'.find?_iff k d).1 hd).1
  rw [get?_eq_find? hr.standard, get?_eq_find? hr'.standard] at hn
  rw [lookup?_eq_find? hfiled, lookup?_eq_find? hfiled']
  refine Option.ext fun d => ?_
  rw [hsees.find?_iff, hsees'.find?_iff, hn]

/-- The help on an unknown name is the same. -/
theorem parent?_eq (h : Alike r r' c c') (hn : r.get? name = r'.get? name) :
    (c.registry.get? name).bind (·.parent?) = (c'.registry.get? name).bind (·.parent?) := by
  obtain ⟨opened, hsees, hsees'⟩ := h.sees
  rw [hsees.registry, hsees'.registry, hn]

end Alike

/-! ## Calls -/

/-- The argument is evaluated alike in contexts that are alike. -/
def ResolvesAlike (r r' : Registry Action) (a : Delayed Action) : Prop :=
  ∀ c c' : Context Action, Alike r r' c c' → a.resolve c = a.resolve c'

variable {c c' : Context Action} {d : Definition Action} {arguments : List (Delayed Action)}

theorem rawText_alike {a : Delayed Action} (h : Alike r r' c c') (ha : ResolvesAlike r r' a)
    (index : Nat) :
    (⟨d, arguments, c⟩ : Invocation Action).rawText index a =
      (⟨d, arguments, c'⟩ : Invocation Action).rawText index a := by
  unfold Invocation.rawText
  dsimp only
  rw [ha c c' h]

theorem rawTexts_alike {as : List (Delayed Action)} (h : Alike r r' c c')
    (has : ∀ a ∈ as, ResolvesAlike r r' a) (index : Nat) :
    (⟨d, arguments, c⟩ : Invocation Action).rawTexts index as =
      (⟨d, arguments, c'⟩ : Invocation Action).rawTexts index as := by
  induction as generalizing index with
  | nil => rfl
  | cons a as ih =>
    obtain ⟨ha, has⟩ := List.forall_mem_cons.1 has
    rw [Invocation.rawTexts, Invocation.rawTexts, rawText_alike h ha, ih has]

theorem validate_alike (h : Alike r r' c c') (has : ∀ a ∈ arguments, ResolvesAlike r r' a) :
    (⟨d, arguments, c⟩ : Invocation Action).validate =
      (⟨d, arguments, c'⟩ : Invocation Action).validate := by
  unfold Invocation.validate
  dsimp only
  rw [rawTexts_alike h has]

theorem mem_of_argument? {i : Invocation Action} {a : Delayed Action}
    (h : i.argument? name = some a) : a ∈ i.arguments := by
  unfold Invocation.argument? at h
  split at h
  · exact List.mem_of_getElem? h
  · cases h

theorem createCanvas_alike (hr : Stock r) (hr' : Stock r') (h : Alike r r' c c')
    (has : ∀ a ∈ arguments, ResolvesAlike r r' a) :
    createCanvas (⟨d, arguments, c⟩ : Invocation Action) = createCanvas ⟨d, arguments, c'⟩ := by
  unfold createCanvas
  rw [validate_alike h has]
  refine bind_congr fun a => bind_congr fun width => bind_congr fun height =>
    bind_congr fun canvas => ?_
  refine ExceptT.ext (funext fun w => ?_)
  refine (Eval.run_openCanvas ..).trans (Eq.trans ?_ (Eval.run_openCanvas ..).symm)
  have hinner := h.opening hr hr' d.name w.slots.length
  have hcode : (⟨d, arguments, c⟩ : Invocation Action).argument? "Code" =
      (⟨d, arguments, c'⟩ : Invocation Action).argument? "Code" := rfl
  rw [← hcode]
  split
  · rename_i code hc
    rw [has code (mem_of_argument? hc) _ _ hinner]
  · rfl

theorem renderCanvas_alike (h : Alike r r' c c') (a : Arguments) :
    renderCanvas c a = renderCanvas c' a := by
  unfold renderCanvas Config.resolveOutput Context.withCanvas
  rw [h.canvas?, h.output]

/-- A call is carried out alike. -/
theorem run_alike (hr : Stock r) (hr' : Stock r') (h : Alike r r' c c')
    (has : ∀ a ∈ arguments, ResolvesAlike r r' a) :
    d.action.handler.run ⟨d, arguments, c⟩ = d.action.handler.run ⟨d, arguments, c'⟩ := by
  have hvalidate := validate_alike (d := d) h has
  cases hd : d.action with
  | createCanvas => exact createCanvas_alike hr hr' h has
  | renderCanvas =>
    unfold Action.handler Handler.run
    simp only [hvalidate, renderCanvas_alike h]
  | setVariable =>
    have hset : setVariable c = setVariable c' := rfl
    unfold Action.handler Handler.run
    simp only [hvalidate, hset]
  | getVariable =>
    have hget : getVariable c = getVariable c' := rfl
    unfold Action.handler Handler.run
    simp only [hvalidate, hget]
  | addArc | addCircle | addEllipse | addEllipseImage | addText | createOutline | loadFont =>
    unfold Action.handler Handler.run Context.withCanvas
    simp only [hvalidate, h.canvas?]

theorem callByName_alike (hr : Stock r) (hr' : Stock r') (h : Alike r r' c c')
    (has : ∀ a ∈ arguments, ResolvesAlike r r' a) (hn : r.get? name = r'.get? name)
    (bracketed : Bool) (span : Span Location) :
    callByName name bracketed span arguments c = callByName name bracketed span arguments c' := by
  unfold callByName
  rw [h.lookup?_eq hr hr' hn, h.parent?_eq hn]
  cases c'.lookup? name with
  | none => rfl
  | some d => exact run_alike hr hr' h has

/-! ## Nodes -/

mutual

/-- A node is evaluated alike if both registries have each of its names, or neither has it. -/
theorem evaluateNode_alike (hr : Stock r) (hr' : Stock r') : ∀ (n : Node Location)
    (c c' : Context Action), Alike r r' c c' →
    (∀ name ∈ n.parts.filterMap Part.name?, r.get? name = r'.get? name) →
    evaluateNode n c = evaluateNode n c'
  | .text _, _, _, _, _ => rfl
  | .mention name span, c, c', h, hn =>
    callByName_alike hr hr' h (fun _ ha => by cases ha) (hn name (List.mem_singleton.2 rfl)) _ _
  | .call name as span, c, c', h, hn => by
    rw [names_call] at hn
    obtain ⟨has, hname⟩ := List.forall_mem_append.1 hn
    rw [evaluateNode, evaluateNode]
    exact callByName_alike hr hr' h (delayAll_alike hr hr' as has)
      (hname name (List.mem_singleton.2 rfl)) _ _

theorem delayAll_alike (hr : Stock r) (hr' : Stock r') : ∀ as : List (Argument Location),
    (∀ name ∈ as.flatMap fun a => Node.names a.nodes, r.get? name = r'.get? name) →
    ∀ a ∈ (delayAll as : List (Delayed Action)), ResolvesAlike r r' a
  | [], _, _, ha => by cases ha
  | ⟨nodes, source, span⟩ :: as, hn, a, ha => by
    rw [List.flatMap_cons] at hn
    obtain ⟨hfirst, hrest⟩ := List.forall_mem_append.1 hn
    rcases List.mem_cons.1 ha with rfl | ha
    · intro c c' h
      rw [delay]
      dsimp only
      rw [pieces_alike hr hr' nodes c c' h hfirst]
    · exact delayAll_alike hr hr' as hrest a ha

/-- Nodes are evaluated alike. -/
theorem pieces_alike (hr : Stock r) (hr' : Stock r') : ∀ (ns : List (Node Location))
    (c c' : Context Action), Alike r r' c c' →
    (∀ name ∈ Node.names ns, r.get? name = r'.get? name) → pieces ns c = pieces ns c'
  | [], _, _, _, _ => rfl
  | n :: ns, c, c', h, hn => by
    rw [Node.names_cons] at hn
    obtain ⟨hfirst, hrest⟩ := List.forall_mem_append.1 hn
    rw [pieces, pieces, evaluateNode_alike hr hr' n c c' h hfirst,
      pieces_alike hr hr' ns c c' h hrest]

end

/-! ## Whole scripts -/

/-- **What a script does not name can be switched off**: if each name in a script is that of a
command under both settings, or under neither, the script is evaluated alike. It gives the same
text and the same canvases, or ends with the same fault, and leaves the same world behind. -/
theorem evaluateScript_alike {config : Config} {disabled : List String}
    (hr : registry config = .ok r) (hr' : registry { config with disabled } = .ok r')
    {source : String}
    (hnames : ∀ nodes, Script.read source = .ok nodes →
      ∀ name ∈ Node.names nodes, r.has name = r'.has name) (w : World) :
    (evaluateScript r config source).run w =
      (evaluateScript r' { config with disabled } source).run w := by
  have hs := stock_registry hr
  have hs' := stock_registry hr'
  have hroot : Alike r r' (Context.root r config) (Context.root r' { config with disabled }) :=
    .root hs hs' rfl
  have hsource : evaluateSource source (Context.root r config) =
      evaluateSource source (Context.root r' { config with disabled }) := by
    unfold evaluateSource evaluate
    cases hread : Script.read source with
    | error fault => rfl
    | ok nodes =>
      have hpieces := pieces_alike hs hs' nodes _ _ hroot fun name hname =>
        hs.get?_eq hs' (hnames nodes hread name hname)
      exact congrArg (fun e => Eval.ofExcept (.ok nodes) >>= fun _ => String.join <$> e) hpieces
  have hcanvases : (Context.root r config).canvases =
      (Context.root r' { config with disabled }).canvases := rfl
  unfold evaluateScript
  dsimp only
  rw [hsource, hcanvases]

/-- Fonts are switched off. The script opens a canvas within another one, and then comes to a
command that is there in both registries but cannot be seen. -/
theorem evaluateScript_alike_scoped :
    let config : Config := { output := ⟨"out"⟩ }
    let disabled := ["$LOADFONT"]
    let source := "$createCanvas[2;2;$createCanvas[1;1;$createOutline[a;inner]]$b]$addTextLayer[]"
    ∃ r r', registry config = .ok r ∧ registry { config with disabled } = .ok r' ∧
      r.has "$loadFont" = true ∧ r'.has "$loadFont" = false ∧
      (∀ nodes, Script.read source = .ok nodes →
        ∀ name ∈ Node.names nodes, r.has name = r'.has name) ∧
      ∀ w, (evaluateScript r config source).run w =
        (evaluateScript r' { config with disabled } source).run w := by
  intro config disabled source
  have hunscoped : ((Registry.empty.load definitions).1.removeFamily "$LOADFONT").2 =
      ((Registry.empty.load definitions).1.unregister "$LOADFONT").2 :=
    Registry.removeFamily_of_unscoped (Option.isNone_iff_eq_none.1 (by decide +kernel))
  have hr' : registry { config with disabled } =
      .ok ((Registry.empty.load definitions).1.unregister "$LOADFONT").2 := by
    rw [← hunscoped]
    exact registry_eq _
  have hnames : (Script.read source).toOption.map Node.names =
      some ["$createOutline", "$createCanvas", "$b", "$createCanvas", "$addTextLayer"] := by
    decide +kernel
  have hhas : ∀ nodes, Script.read source = .ok nodes → ∀ name ∈ Node.names nodes,
      (Registry.empty.load definitions).1.has name =
        ((Registry.empty.load definitions).1.unregister "$LOADFONT").2.has name := by
    intro nodes hread
    rw [hread] at hnames
    rw [Option.some.inj hnames]
    decide +kernel
  exact ⟨_, _, registry_eq config, hr', by decide +kernel, by decide +kernel, hhas,
    evaluateScript_alike (registry_eq config) hr' hhas⟩

end CanvasScript.Standard
