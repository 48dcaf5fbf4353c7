import CanvasScript.CommandLine.Jobs
import CanvasScript.Proofs.Run.Rendering
import CanvasScript.Proofs.Standard.Endings
import CanvasScript.Proofs.Storage.Tree
import Mathlib.Algebra.Ring.Nat

/-!
# Scripts one after the other

To render some scripts is to evaluate each of them in a world of its own, on the files that those
before it have left, until one of them fails.

* `Evaluates`: scripts are evaluated one after the other, and these are their evaluations.
* `printed`, `images`: what is printed of evaluations, and the number of images that they rendered.
* `newsLine`, `report`: a line of news, and the text of the last one, as they are read.
* `Fails`: a script cannot be read, or its evaluation fails.
* `Rendering`: how rendering ends, with one rule for each place where it can stop.

Results:
* `files_evaluateScript`: what holds between the files before and after a script.
* `Evaluates.run_append`: scripts that are evaluated, and those behind them.
* `evaluates_or_fails`: all scripts are evaluated, or there is a first one that fails.
* `render_iff`: these are all the ways in which rendering ends.
-/

namespace CanvasScript.Standard

open Command Run Script Settings Storage FileSystem

variable {c : Context Action} {d : Definition Action} {a : Arguments} {t : Task} {w w' : World}
  {o : Option Fault}

/-! ## What becomes of files -/

/-- Variables have nothing to do with files. -/
theorem files_of_named {f : String → Eval String}
    (hf : ∀ name r w₁ w₂, (f name).run w₁ = (r, w₂) → w₂.files = w₁.files) {name : String}
    {r : Except Fault String}
    (h : (Eval.inCommand name (Eval.ofExcept (a.string "Name") >>= f)).run w = (r, w')) :
    w'.files = w.files := by
  obtain ⟨r₀, hrun, -⟩ := Eval.inCommand_cases h
  rcases Eval.bind_cases hrun with ⟨x, w₁, hx, h₁⟩ | ⟨fault, hx, -⟩
  · rw [hf _ _ _ _ h₁, (Eval.of_ofExcept hx).2]
  · rw [(Eval.of_ofExcept hx).2]

theorem files_of_variable (hd : d.action = .setVariable ∨ d.action = .getVariable)
    (h : Acts c d a w o w') : w'.files = w.files := by
  cases h with
  | resolved run hh h =>
    rcases hd with hd | hd
    · rw [hd] at hh
      cases hh
      refine files_of_named (fun name r w₁ w₂ h₁ => ?_) h
      cases h₁
      rfl
    · rw [hd] at hh
      cases hh
      refine files_of_named (fun name r w₁ w₂ h₁ => ?_) h
      cases h₁
      rfl
  | canvas run hh h =>
    rcases hd with hd | hd <;>
    · rw [hd] at hh
      cases hh

/-- Handlers change files by saving canvases only. -/
theorem files_of_acts {R : FileSystem → FileSystem → Prop} (hR : Persists R)
    (h : Acts c d a w o w') : R w.files w'.files := by
  cases effect_of_acts h with
  | «variable» hd =>
    rw [files_of_variable hd h]
    exact hR.refl _
  | pathless | stray | changes | refuses => exact hR.refl _
  | renders hd hn hs path hr | unrendered hd hn hs path hr =>
      exact Picture.persists_saveCanvas hR hr

/-- An evaluation makes directories and writes files, and does nothing else to files. -/
theorem Ends.files {R : FileSystem → FileSystem → Prop} (hR : Persists R) (h : Ends c t w o w') :
    R w.files w'.files := by
  induction h with
  | text | mention | unknown | nil | done => exact hR.refl _
  | unresolved hn hd hargs ih | refused hn hd hargs hr hv ih
  | unopened hn hd ha hargs hr hv hm ih => exact ih
  | acts hn hd hargs hr hv ha ih => exact hR.trans _ _ _ ih (files_of_acts hR ha)
  | opened hn hd ha hargs hr hv ho hcode ih ih' =>
    rcases opening_cases ho with ⟨fault, -, hf, -⟩ | ⟨width, height, id, ids, -, -, rfl⟩
    · cases hf
    · exact hR.trans _ _ _ ih ih'
  | stop hn ih => exact ih
  | cons hn hns ih ih' => exact hR.trans _ _ _ ih ih'
  | script hs has ih | stuck hs has ih => exact ih
  | resolved hs ha has ih ih' => exact hR.trans _ _ _ ih ih'

theorem files_evaluateScript {R : FileSystem → FileSystem → Prop} (hR : Persists R)
    {r : Registry Action} {config : Config} {source : String}
    {result : Except Fault Evaluation}
    (h : (evaluateScript r config source).run w = (result, w')) : R w.files w'.files := by
  rcases ends_evaluateScript h with ⟨fault, -, -, rfl⟩ | ⟨nodes, -, hends, -⟩
  · exact hR.refl _
  · exact hends.files hR

/-- No evaluation goes to another directory. -/
theorem working_evaluateScript {r : Registry Action} {config : Config} {source : String}
    {result : Except Fault Evaluation}
    (h : (evaluateScript r config source).run w = (result, w')) :
    w'.files.working = w.files.working :=
  files_evaluateScript persists_working h

/-- Every evaluation leaves a tree of files. -/
theorem wellFormed_evaluateScript {r : Registry Action} {config : Config} {source : String}
    {result : Except Fault Evaluation}
    (h : (evaluateScript r config source).run w = (result, w')) (hfs : w.files.WellFormed) :
    w'.files.WellFormed :=
  files_evaluateScript persists_wellFormed h hfs

end CanvasScript.Standard

namespace CanvasScript.CommandLine

open Canvas Command Run Settings Storage

/-! ## Evaluations in order -/

/-- A world in which nothing has happened: there are files, but no variables and no canvases. -/
def freshWorld (files : FileSystem) (ids : IdSupply) : World where
  files
  ids
  bindings := KeyMap.empty
  slots := []

/-- Scripts are evaluated one after the other, each in a world of its own on the files that those
before it have left. All of them can be read and evaluated. -/
inductive Evaluates (r : Registry Standard.Action) (config : Config) :
    List FilePath → FileSystem → IdSupply → List Evaluation → FileSystem → IdSupply → Prop
  | nil {files : FileSystem} {ids : IdSupply} : Evaluates r config [] files ids [] files ids
  | cons {p : FilePath} {ps : List FilePath} {files files' : FileSystem} {ids ids' : IdSupply}
      {source : String} {e : Evaluation} {es : List Evaluation} {w : World}
      (hread : files.readText p = .ok source)
      (he : (evaluateScript r config source).run (freshWorld files ids) = (.ok e, w))
      (hrest : Evaluates r config ps w.files w.ids es files' ids') :
      Evaluates r config (p :: ps) files ids (e :: es) files' ids'

/-- What is printed of evaluations: their texts without blanks around them, each on a line of its
own, unless there is nothing left of it. -/
def printed (es : List Evaluation) : String :=
  String.join (((es.map fun e => Text.trim e.output).filter (!·.isEmpty)).map (· ++ "\n"))

/-- How often the canvases of evaluations were rendered, all in all. -/
def images (es : List Evaluation) : Nat :=
  ((es.flatMap (·.canvases)).map (·.renders)).sum

/-- A line of news as it is read: a verb at the right end of its column, which is in bold and in a
colour if the messages go to a terminal, and a text. -/
def newsLine (terminal : Bool) (colour verb text : String) : String :=
  (if terminal then "\x1b[1m" ++ ("\x1b[" ++ colour ++ "m") ++ verb ++ "\x1b[0m" else verb) ++
    " " ++ text ++ "\n"

/-- The console behind one more line of news. -/
def Console.told (c : Console) (colour verb text : String) : Console :=
  { c with messages := c.messages ++ newsLine c.terminal colour verb text }

/-- The line of news that a script is evaluated. -/
def announcement (c : Console) (p : FilePath) : String :=
  newsLine c.terminal "32" "  Evaluating" (shownPath c.files p)

/-- What is reported of some scripts: how many there were and how many images they rendered, both in
decimal digits, and the place of the images. -/
def report (scripts images : Nat) (place : String) : String :=
  toString scripts ++ (if scripts = 1 then " script" else " scripts") ++ ", " ++
    (toString images ++ (if images = 1 then " image" else " images")) ++ " written to " ++ place

/-- The console behind some scripts and their evaluations. -/
def Console.after (c : Console) (ps : List FilePath) (es : List Evaluation) (files : FileSystem)
    (ids : IdSupply) : Console :=
  { c with
    files, ids
    output := c.output ++ printed es
    messages := c.messages ++ String.join (ps.map (announcement c)) }

variable {r : Registry Standard.Action} {config : Config} {p : FilePath} {ps : List FilePath}
  {files files' : FileSystem} {ids ids' : IdSupply} {es : List Evaluation} {c c' : Console}
  {fault : Fault}

theorem Evaluates.working (h : Evaluates r config ps files ids es files' ids') :
    files'.working = files.working := by
  induction h with
  | nil => rfl
  | cons hread he hrest ih => exact ih.trans (Standard.working_evaluateScript he)

theorem shownPath_congr (h : files'.working = files.working) (p : FilePath) :
    shownPath files' p = shownPath files p := by
  unfold shownPath
  rw [h]

theorem images_append (es es' : List Evaluation) : images (es ++ es') = images es + images es' := by
  unfold images
  rw [List.flatMap_append, List.map_append, List.sum_append]

theorem printed_append (es es' : List Evaluation) :
    printed (es ++ es') = printed es ++ printed es' := by
  unfold printed
  rw [List.map_append, List.filter_append, List.map_append, String.join_append]

theorem announcement_congr (ht : c'.terminal = c.terminal)
    (hw : c'.files.working = c.files.working) : announcement c' = announcement c := by
  funext p
  unfold announcement
  rw [ht, shownPath_congr hw]

theorem after_nil (c : Console) : c.after [] [] c.files c.ids = c := by
  unfold Console.after printed
  simp

/-- What comes behind scripts that have not gone elsewhere comes at the end. -/
theorem after_append {ps' : List FilePath} {es' : List Evaluation}
    (hw : files.working = c.files.working) :
    (c.after ps es files ids).after ps' es' files' ids' =
      c.after (ps ++ ps') (es ++ es') files' ids' := by
  have hannouncement : announcement (c.after ps es files ids) = announcement c :=
    announcement_congr rfl hw
  unfold Console.after at hannouncement ⊢
  rw [hannouncement, printed_append, List.map_append, String.join_append, ← String.append_assoc,
    ← String.append_assoc]

/-! ## News -/

theorem messageLine_eq (terminal : Bool) (tone : Tone) (verb text : String) :
    messageLine terminal tone verb text =
      newsLine terminal tone.code (padded verbWidth verb) text := by
  have hbold : escape "1" = "\x1b[1m" := by decide
  have hplain : escape "0" = "\x1b[0m" := by decide
  unfold messageLine newsLine
  rw [hbold, hplain]
  rfl

/-- A number of things begins with the number in decimal digits. -/
theorem plural_eq (n : Nat) (one many : String) :
    plural n one many = toString n ++ if n = 1 then " " ++ one else " " ++ many := by
  unfold plural
  split <;> rw [String.append_assoc]

theorem report_eq (scripts images : Nat) (place : String) :
    plural scripts "script" "scripts" ++ ", " ++ plural images "image" "images" ++
      " written to " ++ place = report scripts images place := by
  rw [plural_eq, plural_eq]
  rfl

/-- A line of news is told by its colour and its column. -/
theorem run_tell {tone : Tone} {colour verb column : String} (hcolour : tone.code = colour)
    (hcolumn : padded verbWidth verb = column) (text : String) (c : Console) :
    (Job.tell tone verb text).run c = (.ok (), c.told colour column text) := by
  rw [← hcolour, ← hcolumn, Console.told, ← messageLine_eq]
  rfl

theorem run_tellPath {tone : Tone} {colour verb column : String} (hcolour : tone.code = colour)
    (hcolumn : padded verbWidth verb = column) (p : FilePath) (c : Console) :
    (Job.tellPath tone verb p).run c = (.ok (), c.told colour column (shownPath c.files p)) := by
  unfold Job.tellPath
  rw [Stateful.run_get_bind]
  exact run_tell hcolour hcolumn _ c

theorem run_announce (p : FilePath) (c : Console) :
    (Job.tellPath .status "Evaluating" p).run c =
      (.ok (), c.told "32" "  Evaluating" (shownPath c.files p)) :=
  run_tellPath rfl (by decide +kernel) p c

theorem run_reportRendered (config : Config) (scripts images : Nat) (c : Console) :
    (reportRendered config scripts images).run c =
      (.ok (), c.told "32" "    Finished"
        (report scripts images (shownPath c.files config.output))) := by
  unfold reportRendered
  rw [Stateful.run_get_bind, ← report_eq]
  exact run_tell rfl (by decide +kernel) _ c

example :
    let c : Console :=
      { files := FileSystem.ofWorking ["work"], ids := { stamp := fun _ => 0, digit := fun _ _ => 0 } }
    ((reportRendered { output := ⟨"/work/out"⟩ } 1 2).run c).2.messages =
      "    Finished 1 script, 2 images written to out\n" := by
  decide +kernel

/-! ## One script -/

theorem run_readScript_of_ok {s : String} (h : c.files.readText p = .ok s) :
    (readScript p).run c = (.ok s, c) := by
  unfold readScript
  rw [Stateful.run_get_bind, h]
  rfl

theorem run_readScript_of_error {e : SystemFault} (h : c.files.readText p = .error e) :
    (readScript p).run c =
      (.error (.file p.text ("Failed to read script: " ++ e.reason)), c) := by
  unfold readScript
  rw [Stateful.run_get_bind, h]
  rfl

theorem run_evaluateFile {source : String} {result : Except Fault Evaluation} {w : World}
    (h : (evaluateScript r config source).run (freshWorld c.files c.ids) = (result, w)) :
    (evaluateFile r config source).run c = (result, { c with files := w.files, ids := w.ids }) := by
  have hrun : (evaluateScript r config source).run { files := c.files, ids := c.ids } =
      (result, w) := h
  unfold ExceptT.run evaluateFile
  rw [hrun]

/-- A script that is evaluated is announced, and what is left of its text is printed. -/
theorem run_renderScript_of_ok {source : String} {e : Evaluation} {w : World}
    (hread : c.files.readText p = .ok source)
    (he : (evaluateScript r config source).run (freshWorld c.files c.ids) = (.ok e, w)) :
    (renderScript r config p).run c = (.ok (images [e]), c.after [p] [e] w.files w.ids) := by
  let c₁ := c.told "32" "  Evaluating" (shownPath c.files p)
  have hread : (readScript p).run c₁ = (.ok source, c₁) := run_readScript_of_ok hread
  have hfile : (evaluateFile r config source).run c₁ =
      (.ok e, { c₁ with files := w.files, ids := w.ids }) := run_evaluateFile he
  unfold renderScript
  rw [Stateful.run_bind_of_ok (run_announce p c),
    Stateful.run_bind_of_ok hread, Stateful.run_bind_of_ok (Stateful.run_tryCatch_of_ok hfile)]
  have himages : e.canvases.foldl (fun n canvas => n + canvas.renders) 0 = images [e] := by
    unfold images
    rw [List.sum_eq_foldl, List.foldl_map, List.flatMap_singleton]
  rw [← himages]
  by_cases hempty : (Text.trim e.output).isEmpty = true
  · have hprinted : printed [e] = "" := by
      simp [printed, hempty]
    dsimp only
    rw [if_pos hempty]
    unfold Console.after
    rw [hprinted, String.append_empty]
    rfl
  · have hprinted : printed [e] = Text.trim e.output ++ "\n" := by
      simp [printed, hempty]
    dsimp only
    rw [if_neg hempty]
    unfold Console.after
    rw [hprinted, ← String.append_assoc]
    rfl

/-- A script is announced, but it cannot be read, or its evaluation fails. Nothing of it is printed;
the files are those that the evaluation has left. -/
inductive Fails (r : Registry Standard.Action) (config : Config) (p : FilePath) (c : Console) :
    Fault → Console → Prop
  | unreadable {e : SystemFault} (hread : c.files.readText p = .error e) :
      Fails r config p c (.file p.text ("Failed to read script: " ++ e.reason))
        (c.told "32" "  Evaluating" (shownPath c.files p))
  | failed {source : String} {fault : Fault} {w : World} (hread : c.files.readText p = .ok source)
      (he : (evaluateScript r config source).run (freshWorld c.files c.ids) = (.error fault, w)) :
      Fails r config p c fault
        { (c.told "32" "  Evaluating" (shownPath c.files p)).told "31" "      Failed"
            (shownPath c.files p) with
          files := w.files
          ids := w.ids }

theorem Fails.run (h : Fails r config p c fault c') :
    (renderScript r config p).run c = (.error fault, c') := by
  let c₁ := c.told "32" "  Evaluating" (shownPath c.files p)
  unfold renderScript
  rw [Stateful.run_bind_of_ok (run_announce p c)]
  cases h with
  | unreadable hread =>
    have hread : (readScript p).run c₁ = _ := run_readScript_of_error hread
    rw [Stateful.run_bind_of_error hread]
  | @failed source fault w hread he =>
    have hread : (readScript p).run c₁ = (.ok source, c₁) := run_readScript_of_ok hread
    have hfile : (evaluateFile r config source).run c₁ =
        (.error fault, { c₁ with files := w.files, ids := w.ids }) := run_evaluateFile he
    have hshown : shownPath w.files p = shownPath c.files p :=
      shownPath_congr (Standard.working_evaluateScript he) p
    have hcaught : (tryCatch (evaluateFile r config source) fun fault => do
        Job.tellPath .error "Failed" p
        throw fault).run c₁ = (.error fault, Console.told { c₁ with files := w.files, ids := w.ids }
          "31" "      Failed" (shownPath w.files p)) := by
      have hcolumn : padded verbWidth "Failed" = "      Failed" := by decide +kernel
      rw [Stateful.run_tryCatch_of_error hfile,
        Stateful.run_bind_of_ok (run_tellPath rfl hcolumn p _)]
      rfl
    rw [Stateful.run_bind_of_ok hread, Stateful.run_bind_of_error hcaught, hshown]
    rfl

/-! ## Some scripts -/

/-- Scripts that are evaluated are done with. How rendering ends is up to those behind them, and the
images of all of them are counted. -/
theorem Evaluates.run_append {qs : List FilePath} {result : Except Fault Nat}
    (h : Evaluates r config ps c.files c.ids es files' ids')
    (hqs : (renderScripts r config qs).run (c.after ps es files' ids') = (result, c')) :
    (renderScripts r config (ps ++ qs)).run c = (result.map (images es + ·), c') := by
  induction ps generalizing c es with
  | nil =>
    cases h
    rw [after_nil] at hqs
    rw [List.nil_append, hqs]
    cases result with
    | error fault => rfl
    | ok n =>
      have himages : images [] + n = n := Nat.zero_add n
      rw [Except.map, himages]
  | cons p ps ih =>
    cases h with
    | @cons _ _ _ _ _ _ source e es w hread he hrest =>
      let c₁ := c.after [p] [e] w.files w.ids
      have hfirst : (renderScript r config p).run c = (.ok (images [e]), c₁) :=
        run_renderScript_of_ok hread he
      have hothers : (renderScripts r config (ps ++ qs)).run c₁ =
          (result.map (images es + ·), c') := by
        refine ih hrest ?_
        rw [after_append (Standard.working_evaluateScript he)]
        exact hqs
      rw [List.cons_append]
      unfold renderScripts
      rw [Stateful.run_bind_of_ok hfirst]
      cases result with
      | error fault =>
        rw [Stateful.run_bind_of_error hothers]
        rfl
      | ok n =>
        have himages : images (e :: es) + n = images [e] + (images es + n) := by
          rw [← Nat.add_assoc, ← images_append]
          rfl
        rw [Stateful.run_bind_of_ok hothers, Except.map, himages]
        rfl

/-- Scripts that are all evaluated are rendered one after the other. -/
theorem Evaluates.run (h : Evaluates r config ps c.files c.ids es files' ids') :
    (renderScripts r config ps).run c = (.ok (images es), c.after ps es files' ids') := by
  have hnone : (renderScripts r config []).run (c.after ps es files' ids') =
      (.ok 0, c.after ps es files' ids') := rfl
  have hrun := h.run_append hnone
  rwa [List.append_nil] at hrun

/-- The first script that fails is the last one to be looked at. -/
theorem run_renderScripts_of_fails {after : List FilePath}
    (h : Evaluates r config ps c.files c.ids es files' ids')
    (hp : Fails r config p (c.after ps es files' ids') fault c') :
    (renderScripts r config (ps ++ p :: after)).run c = (.error fault, c') := by
  have hfirst : (renderScripts r config (p :: after)).run (c.after ps es files' ids') =
      (.error fault, c') := by
    unfold renderScripts
    rw [Stateful.run_bind_of_error hp.run]
  exact h.run_append hfirst

/-- Either all scripts are evaluated, or there is a first one that fails. -/
theorem evaluates_or_fails (r : Registry Standard.Action) (config : Config) (ps : List FilePath)
    (c : Console) :
    (∃ es files' ids', Evaluates r config ps c.files c.ids es files' ids') ∨
      ∃ before p after es files' ids' fault c', ps = before ++ p :: after ∧
        Evaluates r config before c.files c.ids es files' ids' ∧
        Fails r config p (c.after before es files' ids') fault c' := by
  induction ps generalizing c with
  | nil => exact .inl ⟨_, _, _, .nil⟩
  | cons p ps ih =>
    have hfirst (fault : Fault) (c' : Console) (h : Fails r config p c fault c') :
        ∃ before q after es files' ids' fault c', p :: ps = before ++ q :: after ∧
          Evaluates r config before c.files c.ids es files' ids' ∧
          Fails r config q (c.after before es files' ids') fault c' := by
      refine ⟨[], p, ps, [], _, _, fault, c', rfl, .nil, ?_⟩
      rw [after_nil]
      exact h
    cases hread : c.files.readText p with
    | error e => exact .inr (hfirst _ _ (.unreadable hread))
    | ok source =>
      rcases he : (evaluateScript r config source).run (freshWorld c.files c.ids) with
        ⟨fault | e, w⟩
      · exact .inr (hfirst _ _ (.failed hread he))
      · rcases ih (c.after [p] [e] w.files w.ids) with
          ⟨es, files', ids', h⟩ | ⟨before, q, after, es, files', ids', fault, c', rfl, h, hq⟩
        · exact .inl ⟨_, _, _, .cons hread he h⟩
        · rw [after_append (Standard.working_evaluateScript he)] at hq
          exact .inr ⟨p :: before, q, after, _, _, _, fault, c', rfl, .cons hread he h, hq⟩

/-! ## The whole of it -/

/-- The settings of a file, or else those of the working directory, with another output directory
if one is given. -/
def chosen (fs : FileSystem) (config? output? : Option FilePath) : Except Fault Config :=
  (config?.elim (Config.discover fs ⟨"."⟩) (Config.load fs)).map fun config =>
    { config with output := output?.getD config.output }

/-- The scripts that some paths lead to, or else those of the working directory. -/
def found (fs : FileSystem) (paths : List FilePath) (config : Config) :
    Except Fault (List FilePath) :=
  collectScripts fs (if paths.isEmpty then [⟨"."⟩] else paths) config.extension

/-- How rendering ends. The scripts are those found before the first of them is evaluated. -/
inductive Rendering (paths : List FilePath) (config? output? : Option FilePath) (c : Console) :
    Except Fault Unit → Console → Prop
  /-- There are no settings. -/
  | unsettled {fault : Fault} (hconfig : chosen c.files config? output? = .error fault) :
      Rendering paths config? output? c (.error fault) c
  /-- A path leads nowhere. -/
  | unfound {config : Config} {fault : Fault}
      (hconfig : chosen c.files config? output? = .ok config)
      (hscripts : found c.files paths config = .error fault) :
      Rendering paths config? output? c (.error fault) c
  /-- There are no scripts. -/
  | idle {config : Config} (hconfig : chosen c.files config? output? = .ok config)
      (hscripts : found c.files paths config = .ok []) :
      Rendering paths config? output? c (.ok ())
        (c.told "33" "    Skipping" ("no ." ++ config.extension ++ " scripts found"))
  /-- A script fails. The ones in front of it have been evaluated, those behind it are not. -/
  | stopped {config : Config} {r : Registry Standard.Action} {before after : List FilePath}
      {p : FilePath} {es : List Evaluation} {files : FileSystem} {ids : IdSupply} {fault : Fault}
      {c' : Console} (hconfig : chosen c.files config? output? = .ok config)
      (hscripts : found c.files paths config = .ok (before ++ p :: after))
      (hr : Standard.registry config = .ok r)
      (hbefore : Evaluates r config before c.files c.ids es files ids)
      (hp : Fails r config p (c.after before es files ids) fault c') :
      Rendering paths config? output? c (.error fault) c'
  /-- All scripts are evaluated, and the last line reports the images of all of them. -/
  | finished {config : Config} {r : Registry Standard.Action} {scripts : List FilePath}
      {es : List Evaluation} {files : FileSystem} {ids : IdSupply}
      (hconfig : chosen c.files config? output? = .ok config)
      (hscripts : found c.files paths config = .ok scripts) (hne : scripts ≠ [])
      (hr : Standard.registry config = .ok r)
      (hes : Evaluates r config scripts c.files c.ids es files ids) :
      Rendering paths config? output? c (.ok ())
        ((c.after scripts es files ids).told "32" "    Finished"
          (report scripts.length (images es) (shownPath c.files config.output)))

variable {paths : List FilePath} {config? output? : Option FilePath} {result : Except Fault Unit}

theorem run_ofExcept {α : Type} {e e' : Except Fault α} (h : e = e') (c : Console) :
    (Job.ofExcept e).run c = (e', c) := by
  rw [h]
  rfl

theorem run_settings (config? : Option FilePath) (c : Console) :
    (settings config?).run c =
      (config?.elim (Config.discover c.files ⟨"."⟩) (Config.load c.files), c) := by
  cases config? <;> rfl

/-- Settings and scripts are those of the files as they are to begin with. -/
theorem run_render (paths : List FilePath) (config? output? : Option FilePath) (c : Console) :
    (render paths config? output?).run c =
      (do
        let config ← Job.ofExcept (chosen c.files config? output?)
        let scripts ← Job.ofExcept (found c.files paths config)
        if scripts.isEmpty then
          Job.tell .warning "Skipping" ("no ." ++ config.extension ++ " scripts found")
        else
          let registry ← Job.ofExcept (Standard.registry config)
          let images ← renderScripts registry config scripts
          reportRendered config scripts.length images : Job Unit).run c := by
  have hsettings := run_settings config? c
  unfold render chosen
  cases hconfig : config?.elim (Config.discover c.files ⟨"."⟩) (Config.load c.files) with
  | error fault =>
    rw [hconfig] at hsettings
    rw [Stateful.run_bind_of_error hsettings]
    rfl
  | ok config =>
    rw [hconfig] at hsettings
    rw [Stateful.run_bind_of_ok hsettings]
    dsimp only
    rw [Stateful.run_get_bind]
    rfl

/-- Each rule is a way in which rendering ends. -/
theorem Rendering.run (h : Rendering paths config? output? c result c') :
    (render paths config? output?).run c = (result, c') := by
  rw [run_render]
  cases h with
  | unsettled hconfig => rw [Stateful.run_bind_of_error (run_ofExcept hconfig c)]
  | unfound hconfig hscripts =>
    rw [Stateful.run_bind_of_ok (run_ofExcept hconfig c),
      Stateful.run_bind_of_error (run_ofExcept hscripts c)]
  | idle hconfig hscripts =>
    rw [Stateful.run_bind_of_ok (run_ofExcept hconfig c),
      Stateful.run_bind_of_ok (run_ofExcept hscripts c)]
    exact run_tell rfl (by decide +kernel) _ c
  | stopped hconfig hscripts hr hbefore hp =>
    rw [Stateful.run_bind_of_ok (run_ofExcept hconfig c),
      Stateful.run_bind_of_ok (run_ofExcept hscripts c), if_neg (by simp),
      Stateful.run_bind_of_ok (run_ofExcept hr c),
      Stateful.run_bind_of_error (run_renderScripts_of_fails hbefore hp)]
  | @finished config r scripts es files ids hconfig hscripts hne hr hes =>
    have hshown : shownPath files config.output = shownPath c.files config.output :=
      shownPath_congr hes.working _
    rw [Stateful.run_bind_of_ok (run_ofExcept hconfig c),
      Stateful.run_bind_of_ok (run_ofExcept hscripts c), if_neg (by simpa using hne),
      Stateful.run_bind_of_ok (run_ofExcept hr c), Stateful.run_bind_of_ok hes.run, ← hshown]
    exact run_reportRendered config _ _ _

/-- Rendering always ends in one of these ways. -/
theorem exists_rendering (paths : List FilePath) (config? output? : Option FilePath)
    (c : Console) : ∃ result c', Rendering paths config? output? c result c' := by
  cases hconfig : chosen c.files config? output? with
  | error fault => exact ⟨_, _, .unsettled hconfig⟩
  | ok config =>
    cases hscripts : found c.files paths config with
    | error fault => exact ⟨_, _, .unfound hconfig hscripts⟩
    | ok scripts =>
      have hr := Standard.registry_eq config
      by_cases hne : scripts = []
      · rw [hne] at hscripts
        exact ⟨_, _, .idle hconfig hscripts⟩
      · rcases evaluates_or_fails _ config scripts c with
          ⟨es, files, ids, hes⟩ | ⟨before, p, after, es, files, ids, fault, c', rfl, hbefore, hp⟩
        · exact ⟨_, _, .finished hconfig hscripts hne hr hes⟩
        · exact ⟨_, _, .stopped hconfig hscripts hr hbefore hp⟩

/-- To render scripts is to evaluate them in order, each in a world of its own on the files that
those before it have left, up to the first one that cannot be read or evaluated. Its fault is the
one of the whole; what has been printed then are the texts of the scripts before it, and no script
behind it has any effect. If there is no such script, then the last line reports, in decimal digits,
how many images all canvases of all scripts have been rendered to. -/
theorem render_iff (paths : List FilePath) (config? output? : Option FilePath) (c c' : Console)
    (result : Except Fault Unit) :
    (render paths config? output?).run c = (result, c') ↔
      Rendering paths config? output? c result c' := by
  constructor
  · intro h
    obtain ⟨result', c'', hrendering⟩ := exists_rendering paths config? output? c
    have hrun := hrendering.run
    rw [h] at hrun
    cases hrun
    exact hrendering
  · exact Rendering.run

example :
    let fs := ((FileSystem.ofWorking ["work"]).put ["work", "a.easel"] (.file (.text " "))).put
      ["work", "b.easel"] (.file (.text "a; b "))
    let c : Console := { files := fs, ids := { stamp := fun _ => 0, digit := fun _ _ => 0 } }
    let c' := ((render [⟨"a.easel"⟩, ⟨"b.easel"⟩] none none).run c).2
    c'.output = "a; b\n" ∧
      c'.messages = "  Evaluating a.easel\n  Evaluating b.easel\n" ++
        "    Finished 2 scripts, 0 images written to .\n" := by
  decide +kernel

end CanvasScript.CommandLine
