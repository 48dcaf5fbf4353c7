import CanvasScript.Proofs.Storage.FilePath
import CanvasScript.Proofs.Storage.FileSystem
import Mathlib.Data.List.Basic
import Mathlib.Data.List.Induction

/-!
# Files below a directory

The entries of a file system make up a tree when everything in it has a name and is held by a
directory. All operations leave it so.

* `WellFormed`: the file system is such a tree.
* `LiesBelow`: a file lies below a directory, some names deep.

Results:
* `wellFormed_ofWorking`, `persists_wellFormed`: a file system is well-formed at first, and stays
  so.
* `mem_filesBelow_iff`, `pairwise_filesBelow`: what is listed are the files that lie below, in the
  order of their names.
* `resolve_child`: a name in a directory is found by its path, unless this is too long.
-/

namespace CanvasScript.Storage.FileSystem

open FilePath

variable {fs fs' : FileSystem} {p : FilePath} {q place : Place} {name : String}
  {names : List String} {e : Entry}

/-- The text can be the name of an entry. -/
structure IsEntryName (name : String) : Prop extends IsName name where
  fits : name.utf8ByteSize ≤ nameLimit

instance : Decidable (IsEntryName name) :=
  decidable_of_iff (IsName name ∧ name.utf8ByteSize ≤ nameLimit)
    ⟨fun ⟨h, hfits⟩ => ⟨h, hfits⟩, fun ⟨h, hfits⟩ => ⟨h, hfits⟩⟩

/-- The entries are a tree. -/
structure WellFormed (fs : FileSystem) : Prop where
  named : ∀ q e, fs.entry? q = some e → ∀ name ∈ q, IsEntryName name
  /-- Everything but the root is held by a directory. -/
  held : ∀ q name e, fs.entry? (q ++ [name]) = some e → fs.entry? q = some .directory

/-- There is a directory at the place. -/
def isDirectoryAt (fs : FileSystem) (q : Place) : Bool :=
  match fs.entry? q with
  | some .directory => true
  | _ => false

theorem isDirectoryAt_iff : fs.isDirectoryAt q = true ↔ fs.entry? q = some .directory := by
  unfold isDirectoryAt
  split <;> simp_all

theorem mem_entries_iff (hne : q ≠ []) :
    (q, e) ∈ fs.entries.toList ↔ fs.entry? q = some e := by
  rw [KeyMap.mem_toList_iff, entry?, if_neg (by simpa using hne)]

/-- To be well-formed is a matter of single entries. -/
theorem wellFormed_iff : fs.WellFormed ↔ ∀ e ∈ fs.entries.toList,
    (∀ name ∈ e.1, IsEntryName name) ∧ fs.isDirectoryAt e.1.dropLast = true := by
  constructor
  · intro h
    rintro ⟨q, e⟩ hmem
    cases q using List.reverseRecOn with
    | nil => exact ⟨fun _ h => absurd h List.not_mem_nil, rfl⟩
    | append_singleton q name =>
      have he := (mem_entries_iff (by simp)).1 hmem
      rw [List.dropLast_concat]
      exact ⟨h.named _ _ he, isDirectoryAt_iff.2 (h.held _ _ _ he)⟩
  · intro h
    refine ⟨fun q e he => ?_, fun q name e he => ?_⟩
    · cases q with
      | nil => exact fun _ h => absurd h List.not_mem_nil
      | cons name q => exact (h _ ((mem_entries_iff (by simp)).2 he)).1
    · have hheld := (h _ ((mem_entries_iff (by simp)).2 he)).2
      rw [List.dropLast_concat] at hheld
      exact isDirectoryAt_iff.1 hheld

instance : Decidable fs.WellFormed :=
  decidable_of_iff _ wellFormed_iff.symm

theorem requireName_eq_ok_iff {u : Unit} :
    requireName name = .ok u ↔ name.utf8ByteSize ≤ nameLimit := by
  unfold requireName
  split <;> simp_all

/-! ## Well-formed file systems -/

/-- Before its last name a place is that of a directory. -/
theorem WellFormed.entry?_of_append (h : fs.WellFormed) (hne : names ≠ [])
    (he : fs.entry? (q ++ names) = some e) : fs.entry? q = some .directory := by
  induction names generalizing q with
  | nil => exact absurd rfl hne
  | cons name names ih =>
    cases names with
    | nil => exact h.held q name e he
    | cons name' names =>
      refine h.held q name .directory (ih (List.cons_ne_nil _ _) ?_)
      rw [List.append_assoc]
      exact he

/-- A new entry in a directory, but for one in the place of a directory. -/
theorem WellFormed.put (h : fs.WellFormed) (hd : fs.entry? place = some .directory)
    (hname : IsEntryName name) (he : fs.entry? (place ++ [name]) ≠ some .directory) :
    (fs.put (place ++ [name]) e).WellFormed where
  named q e' hq name' hname' := by
    rw [entry?_put] at hq
    split at hq
    · rename_i hplace
      rw [hplace] at hname'
      rcases List.mem_append.1 hname' with hmem | hmem
      · exact h.named place _ hd name' hmem
      · rwa [List.mem_singleton.1 hmem]
    · exact h.named q e' hq name' hname'
  held q name' e' hq := by
    rw [entry?_put] at hq ⊢
    have hdirectory : fs.entry? q = some .directory := by
      split at hq
      · rename_i hplace
        rwa [(List.append_inj' hplace rfl).1]
      · exact h.held q name' e' hq
    rw [if_neg]
    · exact hdirectory
    · rintro rfl
      exact he hdirectory

theorem putDirectories_concat (h : fs.putDirectories place = fs') (name : String) :
    fs.putDirectories (place ++ [name]) =
      if (fs'.entry? (place ++ [name])).isSome then fs'
      else fs'.put (place ++ [name]) .directory := by
  have htake : (place ++ [name]).take (place.length + 1) = place ++ [name] :=
    List.take_of_length_le (by simp)
  have hfold : (List.range place.length).foldl (fun fs n =>
      let q := (place ++ [name]).take (n + 1)
      if (fs.entry? q).isSome then fs else fs.put q .directory) fs = fs' := by
    rw [← h]
    refine List.foldl_ext _ _ _ fun fs n hn => ?_
    rw [List.take_append_of_le_length (List.mem_range.1 hn)]
  rw [putDirectories, List.length_append, List.length_singleton, List.range_succ,
    List.foldl_append, hfold]
  dsimp only [List.foldl_cons, List.foldl_nil]
  rw [htake]

/-- Directories are put at all places on the way to another one, unless there is a file at one of
them. -/
theorem WellFormed.putDirectories (h : fs.WellFormed) (hnames : ∀ name ∈ place, IsEntryName name)
    (hfree : ∀ n c, fs.entry? (place.take n) ≠ some (.file c)) :
    (fs.putDirectories place).WellFormed ∧
      entry? (fs.putDirectories place) place = some .directory ∧
      ∀ q c, entry? (fs.putDirectories place) q = some (.file c) → fs.entry? q = some (.file c) := by
  induction place using List.reverseRecOn with
  | nil => exact ⟨h, rfl, fun _ _ h => h⟩
  | append_singleton place name ih =>
    obtain ⟨h₁, hd, hfiles⟩ := ih (fun name' hname => hnames name' (List.mem_append_left _ hname))
      fun n c => by
        have hprefix := hfree (min n place.length) c
        rwa [List.take_append_of_le_length (Nat.min_le_right ..), ← List.take_take,
          List.take_length] at hprefix
    have hplace := hfree (place.length + 1)
    rw [List.take_of_length_le (by simp)] at hplace
    rw [putDirectories_concat rfl]
    cases he : entry? (fs.putDirectories place) (place ++ [name]) with
    | some e =>
      cases e with
      | file c => exact absurd (hfiles _ c he) (hplace c)
      | directory => exact ⟨h₁, he, hfiles⟩
    | none =>
      refine ⟨h₁.put hd (hnames name (by simp)) ?_, entry?_put_self .., fun q c hq => ?_⟩
      · rw [he]
        exact (Option.some_ne_none _).symm
      · rw [if_neg (by simp), entry?_put] at hq
        split at hq
        · cases hq
        · exact hfiles q c hq

/-- At first there is only the working directory. -/
theorem wellFormed_ofWorking (hnames : ∀ name ∈ place, IsEntryName name) :
    (ofWorking place).WellFormed ∧ entry? (ofWorking place) place = some .directory := by
  let bare : FileSystem := { entries := KeyMap.empty, working := place }
  have hbare (q : Place) (e : Entry) : bare.entry? q = some e ↔ q = [] ∧ e = .directory := by
    cases q <;> simp [bare, KeyMap.find?_empty, entry?, eq_comm]
  have hwell : bare.WellFormed := by
    refine ⟨fun q e hq => ?_, fun q name e hq => ?_⟩
    · rw [((hbare q e).1 hq).1]
      exact fun name hname => absurd hname List.not_mem_nil
    · exact absurd ((hbare _ e).1 hq).1 (by simp)
  have hput := hwell.putDirectories hnames fun n c h => by cases ((hbare _ _).1 h).2
  exact ⟨hput.1, hput.2.1⟩

theorem requireFit_eq_ok_iff {u : Unit} :
    requireFit p = .ok u ↔
      '\x00' ∉ p.text.toList ∧ p.text ≠ "" ∧ p.text.utf8ByteSize < pathLimit := by
  unfold requireFit
  split
  · simp_all
  · split
    · simp_all
    · split <;> simp_all

/-- The last name of a path can be that of an entry. -/
theorem isEntryName_of_holder (h : fs.holder p = .ok (some (place, name))) : IsEntryName name := by
  obtain ⟨hfit, front, hsegments, -, -, hname, hdot, hup⟩ := of_holder h
  have hmem : name ∈ p.segments := by simp [hsegments]
  exact ⟨isName_of_mem_segments (requireFit_eq_ok_iff.1 hfit).1 hmem hdot hup,
    requireName_eq_ok_iff.1 hname⟩

/-- A new entry at the end of a path, but for one in the place of a directory. -/
theorem WellFormed.put_holder (h : fs.WellFormed) (hheld : fs.holder p = .ok (some (place, name)))
    (he : fs.entry? (place ++ [name]) ≠ some .directory) :
    (fs.put (place ++ [name]) e).WellFormed := by
  obtain ⟨-, front, -, -, hd, -⟩ := of_holder hheld
  exact h.put hd (isEntryName_of_holder hheld) he

/-- Directories are made in directories. -/
theorem WellFormed.makeDirectory {r : Except SystemFault Unit} (h : fs.WellFormed)
    (hr : (makeDirectory p).run fs = (r, fs')) : fs'.WellFormed := by
  rcases makeDirectory_cases hr with ⟨place, name, hheld, hnone, rfl⟩ | rfl
  · refine h.put_holder hheld ?_
    rw [hnone]
    exact (Option.some_ne_none _).symm
  · exact h

theorem WellFormed.writeFile {c : Content} {r : Except SystemFault Unit} (h : fs.WellFormed)
    (hr : (writeFile p c).run fs = (r, fs')) : fs'.WellFormed := by
  rcases writeFile_put_cases hr with ⟨-, place, name, hheld, -, hne, rfl⟩ | ⟨-, rfl⟩
  · exact h.put_holder hheld hne
  · exact h

/-- However files are written, the file system stays well-formed. -/
theorem persists_wellFormed : Persists fun fs fs' => fs.WellFormed → fs'.WellFormed where
  refl _ h := h
  trans _ _ _ h h' hfs := h' (h hfs)
  make _ _ _ _ hr h := h.makeDirectory hr
  write _ _ _ _ _ hr h := h.writeFile hr

/-! ## Listing -/

/-- A file lies below a directory, at the end of some names. -/
inductive LiesBelow (fs : FileSystem) : Place → List String → Prop
  | here {place : Place} {name : String} {c : Content}
      (h : fs.entry? (place ++ [name]) = some (.file c)) : LiesBelow fs place [name]
  | deeper {place : Place} {name : String} {names : List String}
      (hd : fs.entry? (place ++ [name]) = some .directory)
      (h : LiesBelow fs (place ++ [name]) names) : LiesBelow fs place (name :: names)

theorem below?_eq_some_iff : below? place q = some names ↔ q = place ++ names ∧ names ≠ [] := by
  unfold below?
  constructor
  · intro h
    split at h
    · rename_i hq
      rw [Bool.and_eq_true, List.isPrefixOf_iff_prefix, decide_eq_true_iff] at hq
      obtain ⟨⟨rest, rfl⟩, hlength⟩ := hq
      cases h
      rw [List.drop_left]
      refine ⟨rfl, ?_⟩
      rintro rfl
      simp at hlength
    · cases h
  · rintro ⟨rfl, hne⟩
    have hlength : place.length < (place ++ names).length := by
      rw [List.length_append]
      have := List.length_pos_iff.2 hne
      omega
    rw [if_pos, List.drop_left]
    rw [Bool.and_eq_true, List.isPrefixOf_iff_prefix, decide_eq_true_iff]
    exact ⟨List.prefix_append place names, hlength⟩

theorem mem_filesBelow : names ∈ fs.filesBelow place ↔
    names ≠ [] ∧ ∃ c, fs.entry? (place ++ names) = some (.file c) := by
  unfold filesBelow
  rw [List.mem_filterMap]
  constructor
  · rintro ⟨⟨q, e⟩, hmem, h⟩
    cases e with
    | directory => cases h
    | file c =>
      obtain ⟨rfl, hne⟩ := below?_eq_some_iff.1 h
      exact ⟨hne, c, (mem_entries_iff (List.append_ne_nil_of_right_ne_nil _ hne)).1 hmem⟩
  · rintro ⟨hne, c, h⟩
    exact ⟨(place ++ names, .file c),
      (mem_entries_iff (List.append_ne_nil_of_right_ne_nil _ hne)).2 h,
      below?_eq_some_iff.2 ⟨rfl, hne⟩⟩

/-- What is listed are the files that lie below. -/
theorem mem_filesBelow_iff (hfs : fs.WellFormed) :
    names ∈ fs.filesBelow place ↔ fs.LiesBelow place names := by
  rw [mem_filesBelow]
  constructor
  · rintro ⟨hne, c, h⟩
    induction names generalizing place with
    | nil => exact absurd rfl hne
    | cons name names ih =>
      cases names with
      | nil => exact .here h
      | cons name' names =>
        rw [List.append_cons] at h
        exact .deeper (hfs.entry?_of_append (List.cons_ne_nil _ _) h)
          (ih (List.cons_ne_nil _ _) h)
  · intro h
    induction h with
    | @here place name c h => exact ⟨List.cons_ne_nil _ _, c, h⟩
    | @deeper place name names hd h ih =>
      obtain ⟨-, c, hfile⟩ := ih
      refine ⟨List.cons_ne_nil _ _, c, ?_⟩
      rwa [List.append_cons]

theorem LiesBelow.ne_nil (h : fs.LiesBelow place names) : names ≠ [] := by
  cases h <;> exact List.cons_ne_nil _ _

theorem LiesBelow.isName (h : fs.LiesBelow place names) (hfs : fs.WellFormed) :
    ∀ name ∈ names, IsName name := by
  intro name hname
  obtain ⟨-, c, hfile⟩ := mem_filesBelow.1 ((mem_filesBelow_iff hfs).2 h)
  exact (hfs.named _ _ hfile name (List.mem_append_right _ hname)).toIsName

/-- What is listed is in the order of the names, and nothing is listed twice. -/
theorem pairwise_filesBelow (fs : FileSystem) (place : Place) :
    (fs.filesBelow place).Pairwise fun names names' => compare names names' = .lt := by
  refine List.Pairwise.filterMap _ (fun e e' hlt names hnames names' hnames' => ?_)
    fs.entries.ordered
  obtain ⟨q, e⟩ := e
  obtain ⟨q', e'⟩ := e'
  cases e with
  | directory => cases hnames
  | file c =>
    cases e' with
    | directory => cases hnames'
    | file c' =>
      obtain ⟨rfl, -⟩ := below?_eq_some_iff.1 hnames
      obtain ⟨rfl, -⟩ := below?_eq_some_iff.1 hnames'
      rwa [compare_append] at hlt

/-! ## One more name -/

theorem isDirectory_iff : fs.isDirectory p = true ↔
    ∃ place, fs.resolve p = .ok place ∧ fs.entry? place = some .directory := by
  unfold isDirectory lookup
  cases hplace : fs.resolve p with
  | error x => simp [bind, Except.bind]
  | ok place =>
    cases he : fs.entry? place with
    | none => simp [bind, Except.bind, he]
    | some e => cases e <;> simp [bind, Except.bind, he]

theorem requireFit_child {u : Unit} (hp : requireFit p = .ok ()) (hname : IsName name) :
    requireFit (p.child name) = .ok u ↔ (p.child name).text.utf8ByteSize < pathLimit := by
  obtain ⟨hend, hne, -⟩ := requireFit_eq_ok_iff.1 hp
  have hchild : '\x00' ∉ (p.child name).text.toList := by
    obtain ⟨cs, hchild, ⟨hcs, -⟩ | ⟨hcs, -⟩⟩ := exists_child hne hname <;>
    · rw [hcs] at hend
      rw [hchild]
      simp_all [hname.endless]
  rw [requireFit_eq_ok_iff]
  exact ⟨fun h => h.2.2, fun h => ⟨hchild, text_child_ne_empty hne hname, h⟩⟩

/-- A path that leads to a directory leads to a name in it with that name at its end, unless it has
become too long. -/
theorem resolve_child (hp : fs.resolve p = .ok place) (hd : fs.entry? place = some .directory)
    (hname : IsEntryName name) :
    fs.resolve (p.child name) = .ok q ↔
      (p.child name).text.utf8ByteSize < pathLimit ∧ q = place ++ [name] := by
  obtain ⟨hfit, hwalk, -⟩ := resolve_eq_ok_iff.1 hp
  obtain ⟨-, hne, -⟩ := requireFit_eq_ok_iff.1 hfit
  have horigin : fs.origin (p.child name) = fs.origin p := by
    unfold origin
    rw [isAbsolute_child hne hname.toIsName]
  have hnext : next place name = place ++ [name] := next_of_ne hname.ne_dot hname.ne_dots
  have hchild := walk_append_singleton hwalk hd (requireName_eq_ok_iff.2 hname.fits)
  rw [resolve_eq_ok_iff, requireFit_child hfit hname.toIsName, horigin,
    segments_child hne hname.toIsName, endsOpen_child hne hname.toIsName, hchild, hnext]
  simp [eq_comm]

end CanvasScript.Storage.FileSystem
