import CanvasScript.Proofs.Run.Sharing
import CanvasScript.Proofs.Script.Names
import CanvasScript.Proofs.Text.Case

/-!
# Calling commands by their names

A command that is registered has a name that a script can call, and where the command is visible
its name leads to it: in every spelling up to the case of ASCII letters, and whatever other commands
have for aliases.

* `Orderly`: the commands that a context sees pass their check, each under its own key.
* `Callable`: a spelling leads to a command, and a script can call it by that.

Results:
* `Definition.refused_for_name_iff`: for which names the check refuses a command.
* `Orderly.lookup?_of_sameFold`: names come before aliases, in every spelling.
* `History.orderly`: all contexts of a tree are in order, however it has been used.
* `evaluateSource_brackets`: what is called by a name with brackets.
* `callable_by_name`: all of it for every registry that operations lead to.
-/

namespace CanvasScript.Command.Definition

variable {α : Type} {d : Definition α}

/-- What is wrong with parameters has nothing to do with the name of the command. -/
theorem ne_name_of_parametersFault? {earlier ps : List Parameter} {fault : DefinitionFault}
    (h : d.parametersFault? earlier ps = some fault) (name : String) : fault ≠ .name name := by
  induction ps generalizing earlier with
  | nil => cases h
  | cons p ps ih =>
    rw [parametersFault?, Option.or_eq_some_iff] at h
    rcases h with h | ⟨-, h⟩
    · unfold parameterFault? at h
      grind
    · exact ih h

/-- The check refuses a command for its name if no script can call it by that name. -/
theorem refused_for_name_iff :
    d.check = .error (.definition (.name d.name)) ↔ isName d.name = false := by
  unfold check fault?
  cases hname : isName d.name with
  | false => simp
  | true =>
    rw [Bool.not_true, if_neg Bool.false_ne_true]
    split
    · rename_i fault hfault
      split at hfault
      · cases hfault
        simp
      · simpa using ne_name_of_parametersFault? hfault d.name
    · simp

theorem isName_of_check (h : d.check = .ok ()) : isName d.name = true := by
  rw [← Bool.not_eq_false, ← refused_for_name_iff, h]
  simp

end CanvasScript.Command.Definition

namespace CanvasScript.Run

open Canvas Command Settings

variable {α β : Type} {n : Nat} {c : Context α} {d : Definition α} {spelling : String}

/-! ## Look-ups -/

/-- The commands that can be seen pass their check, each under its own key. -/
structure Orderly (c : Context α) : Prop where
  registry : AllFiled (fun d => d.check = .ok ()) c.registry.commands
  commands : AllFiled (fun d => d.check = .ok ()) c.commands

namespace Orderly

theorem root {r : Registry α} (hr : AllFiled (fun d => d.check = .ok ()) r.commands)
    (config : Config) : Orderly (Context.root r config) where
  registry := hr
  commands := allFiled_insertAll allFiled_empty fun _ => Registry.of_mem_topLevel hr

theorem loadScoped (h : Orderly c) (parent : String) : Orderly (c.loadScoped parent) where
  registry := h.registry
  commands := allFiled_insertAll h.commands fun _ => Registry.of_mem_childrenOf h.registry

/-- A visible command is found under its key. -/
theorem find?_key (h : Orderly c) (hd : d ∈ c.commands.values) :
    c.commands.find? d.key = some d := by
  obtain ⟨⟨k, d'⟩, hmem, rfl⟩ := List.mem_map.1 hd
  have hk := KeyMap.mem_toList_iff.1 hmem
  rwa [(h.commands k d' hk).2]

/-- The name of a visible command leads to it in every spelling, before any alias does. -/
theorem lookup?_of_sameFold (h : Orderly c) (hd : d ∈ c.commands.values)
    (hs : Text.sameFold d.name spelling = true) : c.lookup? spelling = some d := by
  have hname := Definition.isName_of_check (of_mem_values h.commands hd)
  have hkey : Definition.keyOf spelling = d.key :=
    Text.lower_of_sameFold (Script.isAscii_of_isName hname) hs
  rw [Context.lookup?, hkey, h.find?_key hd, Option.some_or]

end Orderly

/-! ## Contexts -/

/-- The commands that a context sees are in order, however the tree that it belongs to has been
used. -/
theorem History.orderly {r : Registry α} (hr : AllFiled (fun d => d.check = .ok ()) r.commands)
    (config : Config) (files : Storage.FileSystem) (ids : IdSupply) (h : History β n)
    (j : Fin (n + 1)) : Orderly ((h.session r config files ids).context j) := by
  induction h with
  | root =>
    rw [Fin.fin_one_eq_zero j]
    exact .root hr config
  | @extend n h i ih =>
    have hn := (h.follows r config files ids).length
    cases j using Fin.lastCases with
    | last =>
      have hcontext := Session.context_extend_last hn i
      exact hcontext ▸ ih i
    | cast j =>
      have hcontext := Session.context_extend_castSucc hn i j
      exact hcontext ▸ ih j
  | @perform n h i step ih =>
    have hn := (h.follows r config files ids).length
    cases step with
    | get | canvases | set | withCanvas => exact ih j
    | openCanvas canvas =>
      -- A new canvas is a change of the world; what is seen from the context stays.
      have hcontext : ((h.session r config files ids).openCanvas i canvas).context j =
          if j = i then { (h.session r config files ids).context i with
            canvas? := some (h.session r config files ids).world.slots.length }
          else (h.session r config files ids).context j :=
        Session.context_setContext (s := { h.session r config files ids with
          world := { (h.session r config files ids).world with
            slots := (h.session r config files ids).world.slots ++ [{ canvas }] } }) hn _ i j
      rw [session, Session.perform, hcontext]
      split
      · exact ⟨(ih i).registry, (ih i).commands⟩
      · exact ih j
    | loadScoped parent =>
      rw [session, Session.perform, Session.context_loadScoped hn]
      split
      · exact (ih i).loadScoped parent
      · exact ih j

/-! ## Calls -/

/-- A name with brackets behind it is evaluated by carrying out the command it leads to. -/
theorem evaluateSource_brackets [Behaviour α] (hname : Definition.isName spelling = true)
    (hd : c.lookup? spelling = some d) :
    evaluateSource (spelling ++ "[]") c =
      (Behaviour.handler d.action).run { command := d, arguments := [], context := c } := by
  obtain ⟨span, hread⟩ := Script.isName_iff_read.1 hname
  have hcall : evaluateNode (.call spelling [] span) c =
      (Behaviour.handler d.action).run { command := d, arguments := [], context := c } := by
    rw [evaluateNode, callByName, hd, delayAll]
  unfold evaluateSource
  rw [hread]
  change evaluate [.call spelling [] span] c = _
  simp [evaluate, pieces, hcall, String.join]

/-- A spelling leads to a command, and a script can call it by that. -/
structure Callable (c : Context α) (d : Definition α) (spelling : String) : Prop where
  /-- It is this command that is found, and no other. -/
  found : c.lookup? spelling = some d
  /-- The reader takes the spelling for a call. -/
  read : ∃ span, Script.read (spelling ++ "[]") = .ok [.call spelling [] span]
  /-- The call carries out the command, whatever commands do. -/
  called [Behaviour α] : evaluateSource (spelling ++ "[]") c =
    (Behaviour.handler d.action).run { command := d, arguments := [], context := c }

theorem Orderly.callable (h : Orderly c) (hd : d ∈ c.commands.values)
    (hs : Text.sameFold d.name spelling = true) : Callable c d spelling := by
  have hname := Definition.isName_of_check (of_mem_values h.commands hd)
  have hspelling := Script.isName_of_sameFold hname hs
  have hfound := h.lookup?_of_sameFold hd hs
  exact ⟨hfound, Script.isName_iff_read.1 hspelling, evaluateSource_brackets hspelling hfound⟩

/-- **Commands can be called by their names**: the check refuses a command for its name unless a
script reads the name with brackets behind it as one call of that name. And in every context over a
registry that operations lead to, a visible command is called by its name in every spelling up to
the case of ASCII letters, whatever aliases other commands have. -/
theorem callable_by_name :
    (∀ d : Definition α, d.check ≠ .error (.definition (.name d.name)) ↔
      ∃ span, Script.read (d.name ++ "[]") = .ok [.call d.name [] span]) ∧
    ∀ (ops : List (Operation α)) (config : Config) (files : Storage.FileSystem) (ids : IdSupply)
      (n : Nat) (h : History β n) (j : Fin (n + 1)),
      let c := (h.session ((Registry.empty : Registry α).afterAll ops) config files ids).context j
      ∀ d ∈ c.commands.values, ∀ spelling, Text.sameFold d.name spelling = true →
        Callable c d spelling := by
  constructor
  · intro d
    rw [ne_eq, Definition.refused_for_name_iff, Bool.not_eq_false, Script.isName_iff_read]
  · intro ops config files ids n h j c d hd spelling hs
    have hfiled := (Registry.consistent_afterAll ops).filed
    exact (h.orderly hfiled config files ids j).callable hd hs

/-- A scoped command is called by its name where its scope has been opened, though another command
that precedes it has that name for an alias. -/
theorem callable_by_name_shadowed :
    let frame : Definition Unit := { name := "$frame", action := (), aliases := ["$Rim", "$rim"] }
    let rim : Definition Unit := { name := "$rim", action := (), parent? := some "$frame" }
    let ids : IdSupply := { stamp := fun _ => 0, digit := fun _ _ => 0 }
    let h : History Unit 1 := (History.root.extend 0).perform 1 (.loadScoped "$frame")
    let c := (h.session (Registry.empty.afterAll [.load [frame, rim]]) {}
      (Storage.FileSystem.ofWorking []) ids).context 1
    ∃ d ∈ c.commands.values, d.name = "$rim" ∧ Text.sameFold d.name "$RIM" = true ∧
      Callable c d "$RIM" := by
  intro frame rim ids h c
  have hvisible : ∃ d ∈ c.commands.values, d.name = "$rim" := by decide +kernel
  obtain ⟨d, hd, hname⟩ := hvisible
  have hspelling : Text.sameFold d.name "$RIM" = true := by
    rw [hname]
    decide
  exact ⟨d, hd, hname, hspelling, callable_by_name.2 [.load [frame, rim]] {}
    (Storage.FileSystem.ofWorking []) ids 1 h 1 d hd "$RIM" hspelling⟩

end CanvasScript.Run
