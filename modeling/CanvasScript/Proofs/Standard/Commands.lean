import CanvasScript.Proofs.Run.Eval
import CanvasScript.Proofs.Run.Visibility
import CanvasScript.Proofs.Text.Case
import CanvasScript.Standard.Packs
import Mathlib.Data.List.Nodup

/-!
# The standard commands

Which commands a script can see, whatever the settings are.

* `definitions`: all standard commands. What is said of each of them here is read off this list.
* `IsStandard`: the contexts in which nothing but standard commands can be seen.
* `Stock`: the registries of standard commands, with their scopes in order.

Results:
* `registry_eq`: they are registered, whatever is switched off afterwards.
* `isStandard_root`, `isStandard_loadScoped`: all contexts of an evaluation are of this kind.
* `of_lookup?`: a command is found under no other names than the spellings of its own.
* `lookup?_eq_find?`, `get?_eq_find?`: a look-up ends with the key.
* `Stock.get?_eq`: registries that both have a name have the same command under it.
* `lookup?_root`: registered commands of the top level are found.
* `takesScript_iff`: only the code of a canvas is taken as it stands.
* `validate_nil`: no standard command can be called without arguments.
-/

namespace CanvasScript.Standard

open Command Run Settings

/-- The standard commands. -/
def definitions : List (Definition Action) :=
  core.commands ++ canvas.commands

/-! ## What can be read off the list -/

theorem aliases_eq : ∀ d ∈ definitions, d.aliases = [] := by
  decide

theorem isAscii_name : ∀ d ∈ definitions, Text.IsAscii d.name := by
  decide +kernel

/-- Every standard command has an argument that has to be given. -/
theorem exists_needed : ∀ d ∈ definitions, d.parameters.head?.any
    (fun p => p.required && p.default?.isNone && !p.variadic) = true := by
  decide

theorem variadic?_isNone : ∀ d ∈ definitions, d.variadic?.isNone = true := by
  decide

theorem kind_eq_script : ∀ d ∈ definitions, ∀ index, ∀ h : index < d.parameters.length,
    (d.parameters[index].kind = .script ↔ d.action = .createCanvas ∧ index = 2) := by
  decide +kernel

theorem findIdx?_code : ∀ d ∈ definitions, d.action = .createCanvas →
    d.parameters.length = 3 ∧ d.parameters.findIdx? (·.name == "Code") = some 2 := by
  decide +kernel

/-! ## Contexts -/

/-- Nothing but standard commands can be seen, each under its own key. -/
structure IsStandard (c : Context Action) : Prop where
  registry : AllFiled (· ∈ definitions) c.registry.commands
  commands : AllFiled (· ∈ definitions) c.commands

theorem allFiled_registry {config : Config} {r : Registry Action} (h : registry config = .ok r) :
    AllFiled (· ∈ definitions) r.commands := by
  refine Composition.allFiled_build ?_ ?_ h
  · intro p hp d hd
    rw [List.mem_singleton.1 hp] at hd
    exact List.mem_append_left _ hd
  · intro p hp d hd
    rw [List.mem_singleton.1 hp] at hd
    exact List.mem_append_right _ hd

/-- All standard commands are registered, and then those that are switched off are taken out. -/
theorem registry_eq (config : Config) :
    registry config = .ok ((Registry.empty.load definitions).1.removeEach config.disabled) := by
  have hcore : (Registry.empty.load core.commands).2.isNone = true := by
    decide +kernel
  have hcanvas : ((Registry.empty.load core.commands).1.load canvas.commands).2.isNone = true := by
    decide +kernel
  have habsent : (Registry.empty.load core.commands).1.removeEach canvas.roots =
      (Registry.empty.load core.commands).1 :=
    Registry.removeFamily_of_absent (Option.isNone_iff_eq_none.1 (by decide +kernel))
      (Option.isNone_iff_eq_none.1 (by decide +kernel))
  have hbase : [core].foldlM (fun r p => Composition.loadAll r p.commands) Registry.empty =
      .ok (Registry.empty.load core.commands).1 := by
    rw [List.foldlM_cons, Composition.loadAll_of_isNone hcore]
    rfl
  have hoverride : [canvas].foldlM Composition.override (Registry.empty.load core.commands).1 =
      .ok (Registry.empty.load definitions).1 := by
    rw [List.foldlM_cons, Composition.override, habsent, Composition.loadAll_of_isNone hcanvas,
      definitions, Registry.load_append hcore]
    rfl
  exact Composition.build_of_ok (c := composition config) hbase hoverride

/-- With nothing switched off all standard commands are there. -/
theorem registry_default : registry {} = .ok (Registry.empty.load definitions).1 :=
  registry_eq {}

/-- The context of a whole script. -/
theorem isStandard_root {config : Config} {r : Registry Action} (h : registry config = .ok r) :
    IsStandard (Context.root r config) where
  registry := allFiled_registry h
  commands :=
    allFiled_insertAll allFiled_empty fun _ => Registry.of_mem_topLevel (allFiled_registry h)

/-- The context of the code of a canvas. -/
theorem isStandard_loadScoped {c : Context Action} (h : IsStandard c) (parent : String) :
    IsStandard (c.loadScoped parent) where
  registry := h.registry
  commands := allFiled_insertAll h.commands fun _ => Registry.of_mem_childrenOf h.registry

/-- What is true of all commands that can be seen is true of those that are found. -/
theorem prop_of_lookup? {P : Definition Action → Prop} {c : Context Action}
    (h : AllFiled P c.commands) {name : String} {d : Definition Action}
    (hd : c.lookup? name = some d) : P d := by
  rw [Context.lookup?, Option.or_eq_some_iff] at hd
  rcases hd with hd | ⟨-, hd⟩
  · exact (h _ d hd).1
  · exact of_mem_values h (List.mem_of_find?_eq_some hd)

/-- The key of a command is that of every name that it is found under. -/
theorem of_lookup? {c : Context Action} (h : IsStandard c) {name : String}
    {d : Definition Action} (hd : c.lookup? name = some d) :
    d ∈ definitions ∧ d.key = Definition.keyOf name := by
  rw [Context.lookup?, Option.or_eq_some_iff] at hd
  rcases hd with hd | ⟨-, hd⟩
  · exact h.commands _ d hd
  · have hmem := of_mem_values h.commands (List.mem_of_find?_eq_some hd)
    have hmatches := List.find?_some hd
    rw [Definition.matches, aliases_eq d hmem, List.any_nil, Bool.or_false] at hmatches
    exact ⟨hmem, (Text.lower_of_sameFold (isAscii_name d hmem) hmatches).symm⟩

/-! ## Look-ups of standard commands -/

theorem nodup_keys : (definitions.map Definition.key).Nodup := by
  decide +kernel

/-- Standard commands have no aliases, so that a look-up ends with the key. -/
theorem or_find?_eq {m : KeyMap String (Definition Action)} (h : AllFiled (· ∈ definitions) m)
    (name : String) :
    (m.find? (Definition.keyOf name)).or (m.values.find? (·.matches name)) =
      m.find? (Definition.keyOf name) := by
  cases hk : m.find? (Definition.keyOf name) with
  | some d => rfl
  | none =>
    rw [Option.none_or, List.find?_eq_none]
    intro d hd hmatches
    obtain ⟨⟨k, d'⟩, hmem, rfl⟩ := List.mem_map.1 hd
    have hfind := KeyMap.mem_toList_iff.1 hmem
    obtain ⟨hstandard, rfl⟩ := h k _ hfind
    rw [Definition.matches, aliases_eq _ hstandard, List.any_nil, Bool.or_false] at hmatches
    have hkey := Text.lower_of_sameFold (isAscii_name _ hstandard) hmatches
    rw [Definition.key, Definition.keyOf, ← hkey] at hfind
    cases hk.symm.trans hfind

theorem lookup?_eq_find? {c : Context Action} (h : AllFiled (· ∈ definitions) c.commands)
    (name : String) : c.lookup? name = c.commands.find? (Definition.keyOf name) :=
  or_find?_eq h name

theorem get?_eq_find? {r : Registry Action} (h : AllFiled (· ∈ definitions) r.commands)
    (name : String) : r.get? name = r.commands.find? (Definition.keyOf name) :=
  or_find?_eq h name

/-- A registry of standard commands. -/
structure Stock (r : Registry Action) : Prop where
  consistent : r.Consistent
  standard : AllFiled (· ∈ definitions) r.commands

theorem stock_registry {config : Config} {r : Registry Action} (h : registry config = .ok r) :
    Stock r where
  consistent := by
    rw [registry_eq] at h
    cases h
    exact Registry.consistent_removeEach (Registry.consistent_load Registry.consistent_empty _) _
  standard := allFiled_registry h

/-- Registries that both have a name, or both have it not, have the same command under it. -/
theorem Stock.get?_eq {r r' : Registry Action} {name : String} (hr : Stock r) (hr' : Stock r')
    (h : r.has name = r'.has name) : r.get? name = r'.get? name := by
  unfold Registry.has at h
  rw [get?_eq_find? hr.standard, get?_eq_find? hr'.standard] at h ⊢
  cases hd : r.commands.find? (Definition.keyOf name) with
  | none =>
    rw [hd] at h
    exact (Option.isNone_iff_eq_none.1 (by simpa using h.symm)).symm
  | some d =>
    rw [hd, Option.isSome_some] at h
    obtain ⟨d', hd'⟩ := Option.isSome_iff_exists.1 h.symm
    obtain ⟨hmem, hkey⟩ := hr.standard _ d hd
    obtain ⟨hmem', hkey'⟩ := hr'.standard _ d' hd'
    rw [hd', List.inj_on_of_nodup_map nodup_keys hmem hmem' (hkey.trans hkey'.symm)]

/-- A command at the top level that is registered is found in the context of a whole script. -/
theorem lookup?_root {config : Config} {r : Registry Action} (hr : registry config = .ok r)
    {d : Definition Action} (hd : d ∈ definitions) (htop : d.parent? = none)
    (h : r.has d.name = true) : (Context.root r config).lookup? d.name = some d := by
  have hstock := stock_registry hr
  unfold Registry.has at h
  rw [get?_eq_find? hstock.standard] at h
  obtain ⟨d', hd'⟩ := Option.isSome_iff_exists.1 h
  obtain ⟨hmem, hkey⟩ := hstock.standard _ d' hd'
  obtain rfl : d' = d := List.inj_on_of_nodup_map nodup_keys hmem hd hkey
  rw [lookup?_eq_find? (isStandard_root hr).commands,
    (Sees.root hstock.consistent config).find?_iff]
  exact ⟨hd', .inl htop⟩

/-! ## Arguments -/

/-- The argument in this place is not evaluated, but taken as it stands. -/
def takesScript (d : Definition Action) (index : Nat) : Bool :=
  (d.parameterAt? index).any (·.kind = .script)

theorem rawText_of_script {i : Invocation Action} {index : Nat}
    (h : takesScript i.command index = true) (a : Delayed Action) :
    i.rawText index a = pure a.source := by
  unfold takesScript at h
  unfold Invocation.rawText
  cases hp : i.command.parameterAt? index with
  | none =>
    rw [hp] at h
    cases h
  | some p =>
    rw [hp] at h
    have hkind : p.kind = .script := by simpa using h
    dsimp only
    rw [if_pos hkind]

theorem rawText_of_not_script {i : Invocation Action} {index : Nat}
    (h : takesScript i.command index = false) (a : Delayed Action) :
    i.rawText index a = a.resolve i.context := by
  unfold takesScript at h
  unfold Invocation.rawText
  cases hp : i.command.parameterAt? index with
  | none => rfl
  | some p =>
    rw [hp] at h
    have hkind : p.kind ≠ .script := by simpa using h
    dsimp only
    rw [if_neg hkind]

/-- Only the code of a canvas is taken as it stands. -/
theorem takesScript_iff {d : Definition Action} (h : d ∈ definitions) (index : Nat) :
    takesScript d index = true ↔ d.action = .createCanvas ∧ index = 2 := by
  have hat : d.parameterAt? index = d.parameters[index]? := by
    rw [Definition.parameterAt?, Option.isNone_iff_eq_none.1 (variadic?_isNone d h), Option.or_none]
  unfold takesScript
  rw [hat]
  by_cases hi : index < d.parameters.length
  · rw [List.getElem?_eq_getElem hi, ← kind_eq_script d h index hi]
    simp
  · rw [List.getElem?_eq_none (Nat.le_of_not_lt hi)]
    constructor
    · intro hp
      cases hp
    · rintro ⟨ha, rfl⟩
      have hlen := (findIdx?_code d h ha).1
      omega

/-- No standard command can be called without arguments. -/
theorem validate_nil {d : Definition Action} (h : d ∈ definitions) (a : Arguments) :
    d.validate [] ≠ .ok a := by
  intro ha
  have hneeded := exists_needed d h
  cases hp : d.parameters with
  | nil =>
    rw [hp] at hneeded
    cases hneeded
  | cons p ps =>
    rw [hp] at hneeded
    have hneeded : (p.required = true ∧ p.default? = none) ∧ p.variadic = false := by
      simpa using hneeded
    obtain ⟨values, hv, -⟩ := of_bind_ok ha
    rw [hp, Definition.bindAll] at hv
    obtain ⟨value, hb, -⟩ := of_bind_ok hv
    rw [Definition.bind, if_neg (by simp [hneeded.2]), List.head?_nil, Parameter.convert,
      Parameter.given?, hneeded.1.2] at hb
    simp [hneeded.1.1] at hb

end CanvasScript.Standard
