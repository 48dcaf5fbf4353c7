import CanvasScript.Proofs.Script.Escaping
import CanvasScript.Proofs.Standard.Commands
import CanvasScript.Proofs.Text.Blank

/-!
# Variables

A text goes into a variable as an argument, and comes out of it as the text of a call. On its way
it is unescaped once and trimmed once.

* `plain`: the evaluation of an argument that is text alone.
* `storing`, `fetching`: the commands for variables.
* `exchange`: a script that stores a text and fetches it again.

Results:
* `rawTexts_plain`: escaped texts reach a command as they are, unless it takes a script.
* `run_storing`, `run_fetching`: what the two commands do with them.
* `evaluateScript_exchange`: whatever is stored is fetched as it was, up to blanks at the ends.
-/

namespace CanvasScript.Standard

open Canvas Command Run Script Settings

/-! ## Arguments that are text -/

/-- An argument that is text alone. -/
def plain (s : String) : Delayed Action :=
  ⟨escape s, fun _ => pure s⟩

theorem delay_of_map {a : Argument Location} {s : String}
    (h : a.map (fun _ => ()) = quoted s) : delay a = plain s := by
  obtain ⟨nodes, source, span⟩ := a
  rw [Argument.map_eq, Node.mapAll_eq_map, quoted, Argument.mk.injEq] at h
  obtain ⟨hnodes, rfl, -⟩ := h
  obtain rfl := map_eq_gap hnodes
  rw [delay, plain, gap_escape]
  split
  · rename_i hs
    rw [String.isEmpty_iff.1 hs]
    rfl
  · simp [pieces, evaluateNode, String.join]

theorem delayAll_of_mapAll (ss : List String) {as : List (Argument Location)}
    (h : Argument.mapAll (fun _ => ()) as = ss.map quoted) : delayAll as = ss.map plain := by
  induction ss generalizing as with
  | nil =>
    cases as with
    | nil => rfl
    | cons a as => cases h
  | cons s ss ih =>
    cases as with
    | nil => cases h
    | cons a as =>
      rw [Argument.mapAll, List.map_cons, List.cons.injEq] at h
      rw [delayAll, delay_of_map h.1, ih h.2, List.map_cons]

/-- Escaped texts reach a command as they are, unless it takes a script. -/
theorem rawTexts_plain {i : Invocation Action}
    (h : ∀ index, takesScript i.command index = false) (index : Nat) (ss : List String) :
    i.rawTexts index (ss.map plain) = pure ss := by
  induction ss generalizing index with
  | nil => rfl
  | cons s ss ih =>
    have htext : i.rawText index (plain s) = pure s := rawText_of_not_script (h index) _
    rw [List.map_cons, Invocation.rawTexts, htext, ih, pure_bind, pure_bind]

/-! ## The commands for variables -/

theorem run_setVariable {a : Arguments} {x : String} (h : a.string "Name" = .ok x)
    (c : Context α) (w : World) :
    (setVariable c a).run w =
      (.ok "", w.set x (.string ((a.string? "Value").getD ""))) := by
  unfold setVariable
  rw [h]
  rfl

theorem run_getVariable {a : Arguments} {x : String} (h : a.string "Name" = .ok x)
    (c : Context α) (w : World) :
    (getVariable c a).run w = (.ok (((w.get? x).map Value.text).getD ""), w) := by
  unfold getVariable
  rw [h]
  rfl

/-- The command that stores a text. -/
def storing : Definition Action := variableCommands[0]

/-- The command that fetches a text. -/
def fetching : Definition Action := variableCommands[1]

theorem storing_mem : storing ∈ variableCommands :=
  List.getElem_mem _

theorem fetching_mem : fetching ∈ variableCommands :=
  List.getElem_mem _

theorem takesScript_of_mem {d : Definition Action} (h : d ∈ variableCommands) (index : Nat) :
    takesScript d index = false := by
  have ha : ∀ d ∈ variableCommands, d.action ≠ .createCanvas := by decide
  rw [← Bool.not_eq_true, takesScript_iff (List.mem_append_left _ h)]
  exact fun hscript => ha d h hscript.1

theorem validate_plain {i : Invocation Action} (hd : i.command ∈ variableCommands)
    (ss : List String) (hs : i.arguments = ss.map plain) :
    i.validate = Eval.ofExcept (i.command.validate ss) := by
  rw [Invocation.validate, hs, rawTexts_plain (takesScript_of_mem hd), pure_bind]

theorem convert_needed {name command raw description : String} (h : Text.allBlank raw = false) :
    (needed name .string description).convert command (some raw) =
      .ok (.string (Text.trim raw)) := by
  simp [Parameter.convert, Parameter.given?, h, needed, Parameter.accept,
    Parameter.accept.convertText, Kind.value?]

/-- The value of an argument that may be left out. -/
def optional (raw : String) : Value :=
  if Text.allBlank raw then .absent else .string (Text.trim raw)

theorem string?_optional (raw : String) : (optional raw).string?.getD "" = Text.trim raw := by
  unfold optional
  split
  · rename_i h
    exact (Text.trim_of_allBlank h).symm
  · rfl

theorem convert_free {name command raw description : String} :
    (free name .unknown description).convert command (some raw) = .ok (optional raw) := by
  unfold Parameter.convert Parameter.given? optional
  by_cases h : Text.allBlank raw = true
  · simp [h, free]
  · simp [h, free, Parameter.accept, Parameter.accept.convertText, Kind.value?]

theorem bind_single {d : Definition Action} {p : Parameter} (h : p.variadic = false)
    (raw : List String) : d.bind p raw = p.convert d.name raw.head? := by
  rw [Definition.bind, h, if_neg Bool.false_ne_true]

theorem validate_storing {name : String} (h : Text.allBlank name = false) (text : String) :
    storing.validate [name, text] =
      .ok ⟨"$setVar", [("Name", .string (Text.trim name)), ("Value", optional text)]⟩ := by
  have hparameters : storing.parameters =
      [needed "Name" .string "The variable name.", free "Value" .unknown "The value to store."] :=
    rfl
  rw [Definition.validate, hparameters, Definition.bindAll, bind_single rfl, List.head?_cons,
    convert_needed h, Definition.bindAll, bind_single rfl, List.tail_cons, List.head?_cons,
    convert_free]
  rfl

theorem validate_fetching {name : String} (h : Text.allBlank name = false) :
    fetching.validate [name] = .ok ⟨"$getVar", [("Name", .string (Text.trim name))]⟩ := by
  have hparameters : fetching.parameters = [needed "Name" .string "The variable name."] := rfl
  rw [Definition.validate, hparameters, Definition.bindAll, bind_single rfl, List.head?_cons,
    convert_needed h]
  rfl

/-- A text is stored trimmed; a blank one is stored as the empty one. -/
theorem run_storing {name : String} (h : Text.allBlank name = false) (text : String)
    (c : Context Action) (w : World) :
    (storing.action.handler.run ⟨storing, [plain name, plain text], c⟩).run w =
      (.ok "", { w with
        bindings := w.bindings.insert (Text.trim name) (.string (Text.trim text)) }) := by
  have hvalidate : (⟨storing, [plain name, plain text], c⟩ : Invocation Action).validate =
      Eval.ofExcept (storing.validate [name, text]) :=
    validate_plain storing_mem [name, text] rfl
  have hstore := run_setVariable (x := Text.trim name)
    (a := ⟨"$setVar", [("Name", .string (Text.trim name)), ("Value", optional text)]⟩) rfl c w
  have hvalue : Arguments.string? ⟨"$setVar", [("Name", .string (Text.trim name)),
      ("Value", optional text)]⟩ "Value" = (optional text).string? := rfl
  rw [hvalue, string?_optional] at hstore
  have hrun : storing.action.handler.run ⟨storing, [plain name, plain text], c⟩ = (do
      let a ← (⟨storing, [plain name, plain text], c⟩ : Invocation Action).validate
      (setVariable c a).inCommand storing.name) := rfl
  rw [hrun, hvalidate, validate_storing h, Eval.run_bind, Eval.run_ofExcept]
  exact Eval.run_inCommand _ hstore

/-- What is fetched is the text that is stored, nothing if there is none. -/
theorem run_fetching {name : String} (h : Text.allBlank name = false) (c : Context Action)
    (w : World) :
    (fetching.action.handler.run ⟨fetching, [plain name], c⟩).run w =
      (.ok (((w.get? (Text.trim name)).map Value.text).getD ""), w) := by
  have hvalidate : (⟨fetching, [plain name], c⟩ : Invocation Action).validate =
      Eval.ofExcept (fetching.validate [name]) :=
    validate_plain fetching_mem [name] rfl
  have hfetch := run_getVariable (a := ⟨"$getVar", [("Name", .string (Text.trim name))]⟩)
    (x := Text.trim name) rfl c w
  have hrun : fetching.action.handler.run ⟨fetching, [plain name], c⟩ = (do
      let a ← (⟨fetching, [plain name], c⟩ : Invocation Action).validate
      (getVariable c a).inCommand fetching.name) := rfl
  rw [hrun, hvalidate, validate_fetching h, Eval.run_bind, Eval.run_ofExcept]
  exact Eval.run_inCommand _ hfetch

/-! ## Storing and fetching -/

theorem callByName_of_lookup? {c : Context Action} {name : String} {d : Definition Action}
    (h : c.lookup? name = some d) (bracketed : Bool) (span : Span Location)
    (arguments : List (Delayed Action)) :
    callByName name bracketed span arguments c = d.action.handler.run ⟨d, arguments, c⟩ := by
  unfold callByName
  rw [h]
  rfl

/-- A script that stores a text under a name and fetches it again. -/
def exchange (name text : String) : List (Node Unit) :=
  [.call "$setVar" [quoted name, quoted text] ⟨(), ()⟩, .call "$getVar" [quoted name] ⟨(), ()⟩]

theorem writeAll_exchange (name text : String) : Node.writeAll (exchange name text) =
    "$setVar[" ++ escape name ++ ";" ++ escape text ++ "]$getVar[" ++ escape name ++ "]" := by
  have hwrite : ∀ s, (quoted s).write = escape s := writeAll_gap_escape
  simp only [exchange, Node.writeAll, Node.write, Argument.writeAll, hwrite,
    String.intercalate_cons_cons, String.intercalate_singleton, String.append_empty,
    String.append_assoc]
  rfl

theorem exists_read_exchange {name : String} (h : name ≠ "") (text : String) :
    ∃ nodes, read (Node.writeAll (exchange name text)) = .ok nodes ∧
      Node.bare nodes = exchange name text := by
  have hname : Argument.loneEmpty [quoted name] = false := by
    rw [quoted, gap_escape, if_neg (by rwa [String.isEmpty_iff])]
    rfl
  have hpair : Argument.loneEmpty [quoted name, quoted text] = false := by
    rw [quoted]
    cases (gap (escape name) : List (Node Unit)) <;> rfl
  have hnormal : Node.allNormal (exchange name text) = true := by
    have hset : Definition.isName "$setVar" = true := by decide
    have hget : Definition.isName "$getVar" = true := by decide
    simp [exchange, Node.allNormal, Node.isNormal, Node.mayPrecede, Argument.allNormal,
      isNormal_quoted, hset, hget, hname, hpair]
  have hdepth : Node.depthAll (exchange name text) ≤ maxDepth := by
    simp [exchange, Node.depthAll, Node.depth, Argument.depthAll, depth_quoted, maxDepth]
  obtain ⟨nodes, hread, hbare⟩ := read_writeAll hnormal hdepth
  refine ⟨nodes, hread, ?_⟩
  simpa [exchange, Node.respellAll, Node.respell, Argument.respellAll, respell_quoted] using hbare

theorem of_bare_exchange {nodes : List (Node Location)} {name text : String}
    (h : Node.bare nodes = exchange name text) :
    ∃ as as' span span', nodes = [.call "$setVar" as span, .call "$getVar" as' span'] ∧
      delayAll as = [plain name, plain text] ∧ delayAll as' = [plain name] := by
  rw [Node.bare, Node.mapAll_eq_map, exchange] at h
  obtain ⟨n, ns, rfl, hn, hns⟩ := List.map_eq_cons_iff.1 h
  obtain ⟨n', rfl, hn'⟩ := List.map_eq_singleton_iff.1 hns
  obtain ⟨as, span, rfl, has⟩ := Node.map_eq_call hn
  obtain ⟨as', span', rfl, has'⟩ := Node.map_eq_call hn'
  exact ⟨as, as', span, span', rfl, delayAll_of_mapAll [name, text] has,
    delayAll_of_mapAll [name] has'⟩

/-- **Stored text comes back as it is.** Whatever a text holds, once it is escaped it can be stored
under any name that is not blank, and what is fetched under the name is the text without the blanks
at its ends: nothing in it is taken for a call, a separator or an escape. -/
theorem evaluateScript_exchange {config : Config} {r : Registry Action}
    (hr : registry config = .ok r) (hset : r.has "$setVar" = true) (hget : r.has "$getVar" = true)
    {name : String} (hn : Text.allBlank name = false) (text : String) (w : World) :
    (evaluateScript r config ("$setVar[" ++ escape name ++ ";" ++ escape text ++ "]$getVar[" ++
        escape name ++ "]")).run w =
      (.ok { output := Text.trim text, canvases := w.canvases },
        { w with
          bindings := w.bindings.insert (Text.trim name) (.string (Text.trim text)) }) := by
  have hne : name ≠ "" := by
    rintro rfl
    cases hn
  obtain ⟨nodes, hread, hbare⟩ := exists_read_exchange hne text
  obtain ⟨as, as', span, span', rfl, has, has'⟩ := of_bare_exchange hbare
  have hstoring := lookup?_root hr (List.mem_append_left _ storing_mem) rfl hset
  have hfetching := lookup?_root hr (List.mem_append_left _ fetching_mem) rfl hget
  let w' : World :=
    { w with bindings := w.bindings.insert (Text.trim name) (.string (Text.trim text)) }
  have hstore : (evaluateNode (.call "$setVar" as span) (Context.root r config)).run w =
      (.ok "", w') := by
    rw [evaluateNode, has]
    exact (congrArg (·.run w) (callByName_of_lookup? hstoring ..)).trans (run_storing hn text _ w)
  have hfetch : (evaluateNode (.call "$getVar" as' span') (Context.root r config)).run w' =
      (.ok (Text.trim text), w') := by
    have hvalue : w'.get? (Text.trim name) = some (.string (Text.trim text)) := by
      rw [World.get?, KeyMap.find?_insert, if_pos Std.ReflCmp.compare_self]
    have hrun := run_fetching hn (Context.root r config) w'
    rw [hvalue] at hrun
    rw [evaluateNode, has']
    exact (congrArg (·.run w') (callByName_of_lookup? hfetching ..)).trans hrun
  have hpieces : (pieces [.call "$setVar" as span, .call "$getVar" as' span']
      (Context.root r config)).run w = (.ok ["", Text.trim text], w') := by
    simp only [pieces, Eval.run_bind, hstore, hfetch]
    rfl
  have houtput : String.join ["", Text.trim text] = Text.trim text := by
    simp [String.join]
  have hevaluate : (evaluate [.call "$setVar" as span, .call "$getVar" as' span']
      (Context.root r config)).run w = (.ok (String.join ["", Text.trim text]), w') := by
    rw [evaluate, Eval.run_bind, hpieces]
    rfl
  rw [← writeAll_exchange, evaluateScript, evaluateSource, hread, Eval.run_bind, Eval.run_bind,
    Eval.run_ofExcept]
  dsimp only
  rw [hevaluate, houtput]
  rfl

/-- A text that looks like a call, a separator and an escape, with blanks around it. -/
theorem evaluateScript_exchange_lookalike :
    let r := (Registry.empty.load definitions).1
    let ids : IdSupply := { stamp := fun _ => 0, digit := fun _ _ => 0 }
    let w : World := { files := Storage.FileSystem.ofWorking [], ids }
    registry {} = .ok r ∧ r.has "$setVar" = true ∧ r.has "$getVar" = true ∧
      Text.allBlank " a;b" = false ∧
      (evaluateScript r {} "$setVar[ a\\;b; \\$getVar\\[a\\]\\;\\\\\\; ]$getVar[ a\\;b]").run w =
        (.ok { output := "$getVar[a];\\;", canvases := [] },
          { w with bindings := KeyMap.empty.insert "a;b" (.string "$getVar[a];\\;") }) := by
  intro r ids w
  have hset : r.has "$setVar" = true := by decide +kernel
  have hget : r.has "$getVar" = true := by decide +kernel
  have hname : Text.allBlank " a;b" = false := by decide
  refine ⟨registry_default, hset, hget, hname, ?_⟩
  have hsource : "$setVar[" ++ escape " a;b" ++ ";" ++ escape " $getVar[a];\\; " ++ "]$getVar[" ++
      escape " a;b" ++ "]" = "$setVar[ a\\;b; \\$getVar\\[a\\]\\;\\\\\\; ]$getVar[ a\\;b]" := by
    decide
  have htrim : Text.trim " $getVar[a];\\; " = "$getVar[a];\\;" := by decide
  have htrim' : Text.trim " a;b" = "a;b" := by decide
  have h := evaluateScript_exchange registry_default hset hget hname " $getVar[a];\\; " w
  rw [hsource, htrim, htrim'] at h
  exact h

end CanvasScript.Standard
