import CanvasScript.Proofs.Command.Composition
import CanvasScript.Proofs.Standard.Commands

/-!
# The listing of a registry

A listing goes through the commands of the top level, and behind each of them through the commands
scoped under it. It takes the former from the table of commands and the latter from the table of
scopes; it is complete as long as nothing is scoped deeper, or under something that is not there.

* `Registry.listing`: the commands of a listing, of which it shows the summaries.
* `Registry.Shown`: the commands that can be reached in this way.
* `Registry.Rooted`: all commands can be.
* `Registry.Describes`: an entry says what command it is of.
* `Registry.Lists`: what a listing has to be.

Results:
* `mem_listing_iff`, `nodup_listing`: each of them is listed once.
* `rooted_removeEach`: families that are removed leave nothing behind that was scoped under them.
* `summaries_exact`: the listing of every registry that operations lead to, and that of the standard
  commands, whatever is switched off.
-/

namespace CanvasScript.Command.Registry

variable {α : Type} {r : Registry α} {d e : Definition α} {names : List String}

/-! ## Which commands are listed -/

/-- The commands of a listing, in its order. -/
def listing (r : Registry α) : List (Definition α) :=
  r.topLevel.flatMap fun d => d :: r.childrenOf d.name

theorem summaries_eq (r : Registry α) : r.summaries = r.listing.map Definition.summary := by
  rw [summaries, listing, List.map_flatMap]
  rfl

/-- A registered command without a parent, or one whose parent is such a command. -/
def Shown (r : Registry α) (d : Definition α) : Prop :=
  d ∈ r.list ∧
    (d.parent? = none ∨ ∃ p ∈ r.list, p.parent? = none ∧ d.parentKey? = some p.key)

theorem mem_topLevel_iff : d ∈ r.topLevel ↔ d ∈ r.list ∧ d.parent? = none := by
  rw [topLevel, List.mem_filter, Option.isNone_iff_eq_none]

theorem mem_listing_iff (h : r.Consistent) : d ∈ r.listing ↔ r.Shown d := by
  unfold listing Shown
  simp only [List.mem_flatMap, List.mem_cons, mem_topLevel_iff, mem_childrenOf_iff h]
  constructor
  · rintro ⟨p, ⟨hp, htop⟩, rfl | ⟨hd, hparent⟩⟩
    · exact ⟨hp, .inl htop⟩
    · exact ⟨hd, .inr ⟨p, hp, htop, hparent⟩⟩
  · rintro ⟨hd, htop | ⟨p, hp, htop, hparent⟩⟩
    · exact ⟨d, ⟨hd, htop⟩, .inl rfl⟩
    · exact ⟨p, ⟨hp, htop⟩, .inr ⟨hd, hparent⟩⟩

/-! ## Without repetition -/

theorem InOrder.nodup {ds : List (Definition α)} (h : InOrder ds) : ds.Nodup := by
  refine h.imp fun {a b} hlt heq => ?_
  simp [heq] at hlt

/-- Commands with the same key are the same. -/
theorem eq_of_key (h : r.Consistent) (hd : d ∈ r.list) (he : e ∈ r.list) (hk : d.key = e.key) :
    d = e := by
  rw [mem_list_iff h.filed] at hd he
  rw [hk, he] at hd
  exact (Option.some.inj hd).symm

theorem inOrder_topLevel (h : r.Consistent) : InOrder r.topLevel :=
  (inOrder_list h.filed).sublist List.filter_sublist

/-- A child is never listed a second time, neither at the top level nor under another parent. -/
theorem nodup_listing (h : r.Consistent) : r.listing.Nodup := by
  have hchild : ∀ {p d : Definition α}, d ∈ r.childrenOf p.name → d.parentKey? = some p.key :=
    fun hd => ((mem_childrenOf_iff h).1 hd).2
  have htop : ∀ {p q : Definition α}, p ∈ r.topLevel → p ∉ r.childrenOf q.name := by
    intro p q hp hq
    have hparent := hchild hq
    rw [Definition.parentKey?, (mem_topLevel_iff.1 hp).2] at hparent
    cases hparent
  refine List.nodup_flatMap.2 ⟨fun p hp => ?_, ?_⟩
  · exact List.nodup_cons.2 ⟨htop hp, (inOrder_childrenOf h.filed p.name).nodup⟩
  · refine (inOrder_topLevel h).nodup.imp_of_mem fun {p q} hp hq hne => ?_
    refine List.disjoint_left.2 fun d hd hd' => ?_
    rcases List.mem_cons.1 hd with rfl | hd <;> rcases List.mem_cons.1 hd' with hdq | hd'
    · exact hne hdq
    · exact htop hp hd'
    · exact htop hq (hdq ▸ hd)
    · have hkey : p.key = q.key := Option.some.inj ((hchild hd).symm.trans (hchild hd'))
      exact hne (eq_of_key h (mem_topLevel_iff.1 hp).1 (mem_topLevel_iff.1 hq).1 hkey)

theorem nodup_key_listing (h : r.Consistent) : (r.listing.map Definition.key).Nodup :=
  (nodup_listing h).map_on fun _ hd _ he =>
    eq_of_key h ((mem_listing_iff h).1 hd).1 ((mem_listing_iff h).1 he).1

/-! ## Complete listings -/

/-- Every command that has a parent has one that is registered and has none itself. -/
def Rooted (r : Registry α) : Prop :=
  ∀ d ∈ r.list, r.Shown d

theorem perm_listing (h : r.Consistent) (hr : r.Rooted) : r.listing.Perm r.list := by
  refine (List.perm_ext_iff_of_nodup (nodup_listing h) (inOrder_list h.filed).nodup).2 fun d => ?_
  rw [mem_listing_iff h]
  exact ⟨And.left, hr d⟩

theorem mem_list_removeEach (h : r.Consistent) : d ∈ (r.removeEach names).list ↔
    d ∈ r.list ∧ ¬ InFamilies r.commands (names.map Definition.keyOf) d := by
  rw [mem_list_iff (consistent_removeEach h names).filed, commands_removeEach h, find?_outside,
    mem_list_iff h.filed]

/-- The parent of what is left is left, too: it could not have been removed alone. -/
theorem rooted_removeEach (h : r.Consistent) (hr : r.Rooted) (names : List String) :
    (r.removeEach names).Rooted := by
  intro d hd
  obtain ⟨hmem, hleft⟩ := (mem_list_removeEach h).1 hd
  rcases (hr d hmem).2 with htop | ⟨p, hp, htop, hparent⟩
  · exact ⟨hd, .inl htop⟩
  · refine ⟨hd, .inr ⟨p, (mem_list_removeEach h).2 ⟨hp, ?_⟩, htop, hparent⟩⟩
    rintro ⟨key, hkey, hfamily⟩
    exact hleft ⟨key, hkey, .descendant hfamily ((mem_list_iff h.filed).1 hmem) hparent⟩

/-- Loading commands with different keys makes a registry of just these. -/
theorem mem_list_load_iff {ds : List (Definition α)} (hn : (ds.map Definition.key).Nodup)
    (hload : ((empty : Registry α).load ds).2 = none) :
    d ∈ ((empty : Registry α).load ds).1.list ↔ d ∈ ds := by
  rw [mem_list_iff (consistent_load consistent_empty ds).filed, commands_load hload]
  constructor
  · intro h
    rcases mem_of_find?_stored h with hd | hd
    · exact hd
    · cases hd
  · intro hd
    cases hf : (stored (empty : Registry α).commands ds).find? d.key with
    | none =>
      rw [find?_stored, Option.or_eq_none_iff, List.find?_eq_none] at hf
      exact absurd (beq_self_eq_true d.key) (hf.1 d (List.mem_reverse.2 hd))
    | some e =>
      rw [find?_stored, Option.or_eq_some_iff] at hf
      rcases hf with hf | ⟨-, hf⟩
      · have he : e ∈ ds := List.mem_reverse.1 (List.mem_of_find?_eq_some hf)
        have hkey : e.key = d.key := by simpa using List.find?_some hf
        rw [List.inj_on_of_nodup_map hn he hd hkey]
      · cases hf

/-! ## Entries -/

/-- An entry says what command it is of: it has the name of the command, that of its parent, how it
is written, what it does, and its other names. -/
structure Describes (s : Summary) (d : Definition α) : Prop where
  name : s.name = d.name
  parent? : s.parent? = d.parent?
  usage : s.usage = d.usage
  description : s.description = d.description
  aliases : s.aliases = d.aliases

theorem describes_summary (d : Definition α) : Describes d.summary d :=
  ⟨rfl, rfl, rfl, rfl, rfl⟩

theorem forall₂_describes (ds : List (Definition α)) :
    List.Forall₂ Describes (ds.map Definition.summary) ds :=
  List.forall₂_map_left_iff.2 (List.forall₂_same.2 fun d _ => describes_summary d)

/-- The names that a listing shows are those of its commands, in its order. -/
theorem names_summaries (r : Registry α) :
    r.summaries.map (·.name) = r.listing.map (·.name) := by
  rw [summaries_eq, List.map_map]
  rfl

/-- No name is shown twice, not even in another spelling. -/
theorem nodup_names_summaries (h : r.Consistent) :
    ((r.summaries.map (·.name)).map Definition.keyOf).Nodup := by
  rw [names_summaries, List.map_map]
  exact nodup_key_listing h

/-- What the listing of a registry has to be. -/
structure Lists (r : Registry α) (shown : List Summary) : Prop where
  /-- Nothing but commands at the top level and commands scoped directly under these, and all of
  them, each with an entry of its own. -/
  exact : ∃ ds : List (Definition α), List.Forall₂ Describes shown ds ∧
    shown = ds.map Definition.summary ∧ (∀ d, d ∈ ds ↔ r.Shown d) ∧ (ds.map Definition.key).Nodup
  /-- No entry is there twice. -/
  nodup : shown.Nodup
  /-- Nor is there a name twice, in whatever spelling. -/
  distinct : ((shown.map (·.name)).map Definition.keyOf).Nodup
  /-- The commands at the top level, each directly followed by those scoped under it. -/
  grouped : shown = (r.list.filter (·.parent?.isNone)).flatMap fun d =>
    d.summary :: (r.list.filter (·.parentKey? == some d.key)).map Definition.summary
  /-- Their names stand in this order, too. -/
  named : shown.map (·.name) = (r.list.filter (·.parent?.isNone)).flatMap fun d =>
    d.name :: (r.list.filter (·.parentKey? == some d.key)).map (·.name)
  /-- Both in key order. -/
  inOrder : InOrder r.list

theorem lists_summaries (h : r.Consistent) : r.Lists r.summaries where
  exact := ⟨r.listing, summaries_eq r ▸ forall₂_describes r.listing, summaries_eq r,
    fun _ => mem_listing_iff h, nodup_key_listing h⟩
  nodup := .of_map _ (.of_map _ (nodup_names_summaries h))
  distinct := nodup_names_summaries h
  grouped := by
    simp only [summaries, topLevel, childrenOf_eq_filter h]
    rfl
  named := by
    rw [names_summaries, listing, List.map_flatMap]
    simp only [topLevel, childrenOf_eq_filter h, List.map_cons]
    rfl
  inOrder := inOrder_list h.filed

end CanvasScript.Command.Registry

namespace CanvasScript.Standard

open Command Settings

/-- The standard commands are at the top level or scoped under one that is. -/
theorem rooted_definitions : ∀ d ∈ definitions, d.parent? = none ∨
    ∃ p ∈ definitions, p.parent? = none ∧ d.parentKey? = some p.key := by
  decide +kernel

theorem rooted_load : (Registry.empty.load definitions).1.Rooted := by
  have hload : (Registry.empty.load definitions).2 = none :=
    Option.isNone_iff_eq_none.1 (by decide +kernel)
  have hmem : ∀ d, d ∈ (Registry.empty.load definitions).1.list ↔ d ∈ definitions :=
    fun d => Registry.mem_list_load_iff nodup_keys hload
  intro d hd
  refine ⟨hd, (rooted_definitions d ((hmem d).1 hd)).imp_right ?_⟩
  rintro ⟨p, hp, htop, hparent⟩
  exact ⟨p, (hmem p).2 hp, htop, hparent⟩

/-- **Listings are grouped and without repetition, and the standard ones are complete.** The listing
of every registry that operations lead to shows, each once, the commands without a parent and those
whose parent is registered and has none: the former in key order, and behind each the commands
scoped under it in key order. Whatever the settings switch off, the listing of the standard commands
shows every registered command once. -/
theorem summaries_exact :
    (∀ (α : Type) (ops : List (Operation α)),
      ((Registry.empty : Registry α).afterAll ops).Lists
        ((Registry.empty : Registry α).afterAll ops).summaries) ∧
    ∀ config : Config, ∃ r, registry config = .ok r ∧ r.Lists r.summaries ∧
      r.summaries.Perm (r.list.map Definition.summary) ∧
      (r.summaries.map (·.name)).Perm (r.list.map (·.name)) := by
  refine ⟨fun α ops => Registry.lists_summaries (Registry.consistent_afterAll ops),
    fun config => ?_⟩
  have hr := registry_eq config
  have hleft := (stock_registry hr).consistent
  have hrooted := Registry.rooted_removeEach (Registry.consistent_load
    Registry.consistent_empty definitions) rooted_load config.disabled
  have hperm := Registry.perm_listing hleft hrooted
  refine ⟨_, hr, Registry.lists_summaries hleft, ?_, ?_⟩
  · rw [Registry.summaries_eq]
    exact hperm.map Definition.summary
  · rw [Registry.names_summaries]
    exact hperm.map (·.name)

end CanvasScript.Standard
