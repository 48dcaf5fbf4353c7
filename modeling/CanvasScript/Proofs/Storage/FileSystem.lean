import CanvasScript.Proofs.Fault
import CanvasScript.Storage.FileSystem

/-!
# What becomes of files

Directories are made and files are written. Neither does anything to what is there already, but for
the file that is written over.

* `KeepsDirectories`: the directories of a file system are directories in another one.
* `Prepared`: nothing of a file system is lost in another one; what is new are directories at the
  ends of some paths.
* `Written`: a file has been written to the end of a path.
* `Persists`: what holds between two file systems whenever the first one has been changed into the
  second one.

Results:
* `resolve_mono`: a path goes on leading where it leads as long as directories are kept.
* `prepared_makeMissing`: making directories does nothing else, also when it fails half-way.
* `writeFile_cases`: a file is written, or nothing is done.
-/

namespace CanvasScript.Storage.FileSystem

variable {fs fs₁ fs' : FileSystem} {p : FilePath} {q place : Place} {name : String}
  {names : List String} {paths : List FilePath}

/-! ## Entries -/

theorem entry?_put (fs : FileSystem) (place : Place) (name : String) (e : Entry) (q : Place) :
    entry? (fs.put (place ++ [name]) e) q =
      if q = place ++ [name] then some e else fs.entry? q := by
  unfold entry? put
  by_cases hq : q = place ++ [name]
  · simp [hq, KeyMap.find?_insert]
  · simp [hq, KeyMap.find?_insert]

theorem entry?_put_self (fs : FileSystem) (place : Place) (name : String) (e : Entry) :
    entry? (fs.put (place ++ [name]) e) (place ++ [name]) = some e := by
  rw [entry?_put, if_pos rfl]

theorem requireDirectory_eq_ok_iff {u : Unit} :
    fs.requireDirectory q = .ok u ↔ fs.entry? q = some .directory := by
  unfold requireDirectory
  split <;> simp_all

/-! ## Where paths lead -/

/-- What is a directory is one in the second file system, too. -/
structure KeepsDirectories (fs fs' : FileSystem) : Prop where
  working : fs'.working = fs.working
  directory : ∀ q, fs.entry? q = some .directory → fs'.entry? q = some .directory

/-- The place that a name leads to from a directory. -/
def next (q : Place) (name : String) : Place :=
  if name = "." then q else if name = ".." then q.dropLast else q ++ [name]

theorem next_of_ne (hdot : name ≠ ".") (hup : name ≠ "..") : next q name = q ++ [name] := by
  rw [next, if_neg hdot, if_neg hup]

theorem walk_cons (fs : FileSystem) (q : Place) (name : String) (names : List String) :
    fs.walk q (name :: names) = (do
      fs.requireDirectory q
      requireName name
      fs.walk (next q name) names) := by
  rw [walk]
  unfold next
  by_cases hdot : name = "."
  · simp only [if_pos hdot]
  · by_cases hup : name = ".."
    · simp only [if_neg hdot, if_pos hup]
    · simp only [if_neg hdot, if_neg hup]

theorem walk_cons_eq_ok_iff :
    fs.walk q (name :: names) = .ok place ↔
      fs.entry? q = some .directory ∧ requireName name = .ok () ∧
        fs.walk (next q name) names = .ok place := by
  rw [walk_cons]
  constructor
  · intro h
    obtain ⟨u, hd, h⟩ := of_bind_ok h
    obtain ⟨v, hn, h⟩ := of_bind_ok h
    exact ⟨requireDirectory_eq_ok_iff.1 hd, hn, h⟩
  · rintro ⟨hd, hn, h⟩
    have hrequire : fs.requireDirectory q = .ok () := requireDirectory_eq_ok_iff.2 hd
    rw [hrequire, hn]
    exact h

theorem walk_mono (hk : KeepsDirectories fs fs') (h : fs.walk q names = .ok place) :
    fs'.walk q names = .ok place := by
  induction names generalizing q with
  | nil => exact h
  | cons name names ih =>
    obtain ⟨hd, hn, h⟩ := walk_cons_eq_ok_iff.1 h
    exact walk_cons_eq_ok_iff.2 ⟨hk.directory q hd, hn, ih h⟩

/-- One more name at the end of a walk. -/
theorem walk_append_singleton (h : fs.walk q names = .ok place)
    (hd : fs.entry? place = some .directory) (hn : requireName name = .ok ()) :
    fs.walk q (names ++ [name]) = .ok (next place name) := by
  induction names generalizing q with
  | nil =>
    cases h
    exact walk_cons_eq_ok_iff.2 ⟨hd, hn, rfl⟩
  | cons first names ih =>
    obtain ⟨hfirst, hname, h⟩ := walk_cons_eq_ok_iff.1 h
    exact walk_cons_eq_ok_iff.2 ⟨hfirst, hname, ih h⟩

theorem resolve_eq_ok_iff :
    fs.resolve p = .ok place ↔
      requireFit p = .ok () ∧ fs.walk (fs.origin p) p.segments = .ok place ∧
        (p.endsOpen = true → fs.entry? place = some .directory) := by
  unfold resolve
  constructor
  · intro h
    obtain ⟨u, hfit, h⟩ := of_bind_ok h
    obtain ⟨place', hwalk, h⟩ := of_bind_ok h
    refine ⟨hfit, ?_⟩
    by_cases hopen : p.endsOpen = true
    · rw [if_pos hopen] at h
      obtain ⟨v, hd, h⟩ := of_bind_ok h
      cases h
      exact ⟨hwalk, fun _ => requireDirectory_eq_ok_iff.1 hd⟩
    · rw [if_neg hopen] at h
      cases h
      exact ⟨hwalk, fun h => absurd h hopen⟩
  · rintro ⟨hfit, hwalk, hd⟩
    rw [hfit]
    change (fs.walk (fs.origin p) p.segments >>= _) = _
    rw [hwalk]
    change (if p.endsOpen = true then _ else _) = _
    by_cases hopen : p.endsOpen = true
    · have hrequire : fs.requireDirectory place = .ok () := requireDirectory_eq_ok_iff.2 (hd hopen)
      rw [if_pos hopen, hrequire]
      rfl
    · rw [if_neg hopen]

theorem KeepsDirectories.origin (hk : KeepsDirectories fs fs') (p : FilePath) :
    fs'.origin p = fs.origin p := by
  unfold FileSystem.origin
  rw [hk.working]

/-- A path goes on leading where it leads as long as directories are kept. -/
theorem resolve_mono (hk : KeepsDirectories fs fs') (h : fs.resolve p = .ok place) :
    fs'.resolve p = .ok place := by
  obtain ⟨hfit, hwalk, hd⟩ := resolve_eq_ok_iff.1 h
  refine resolve_eq_ok_iff.2 ⟨hfit, ?_, fun hopen => hk.directory place (hd hopen)⟩
  rw [hk.origin]
  exact walk_mono hk hwalk

/-- What holds the last name of a path is the directory that the names before it lead to. -/
theorem of_holder (h : fs.holder p = .ok (some (place, name))) :
    requireFit p = .ok () ∧ ∃ front, p.segments = front ++ [name] ∧
      fs.walk (fs.origin p) front = .ok place ∧ fs.entry? place = some .directory ∧
      requireName name = .ok () ∧ name ≠ "." ∧ name ≠ ".." := by
  unfold holder at h
  obtain ⟨u, hfit, h⟩ := of_bind_ok h
  split at h
  · cases h
  rename_i last hlast
  obtain ⟨place', hwalk, h⟩ := of_bind_ok h
  obtain ⟨v, hheld, h⟩ := of_bind_ok h
  obtain ⟨v', hname, h⟩ := of_bind_ok h
  split at h
  · cases h
  rename_i hdots
  cases h
  obtain ⟨hdot, hup⟩ := not_or.1 hdots
  obtain ⟨front, hsegments⟩ := List.getLast?_eq_some_iff.1 hlast
  rw [hsegments, List.dropLast_concat] at hwalk
  exact ⟨hfit, front, hsegments, hwalk, requireDirectory_eq_ok_iff.1 hheld, hname, hdot, hup⟩

/-- A path whose last name is held by a directory leads to this name in it. -/
theorem resolve_of_holder (h : fs.holder p = .ok (some (place, name)))
    (hk : KeepsDirectories fs fs')
    (hd : p.endsOpen = true → fs'.entry? (place ++ [name]) = some .directory) :
    fs'.resolve p = .ok (place ++ [name]) := by
  obtain ⟨hfit, front, hsegments, hwalk, hheld, hname, hdot, hup⟩ := of_holder h
  have hnext : next place name = place ++ [name] := next_of_ne hdot hup
  refine resolve_eq_ok_iff.2 ⟨hfit, ?_, hd⟩
  rw [hk.origin, hsegments, ← hnext]
  exact walk_append_singleton (walk_mono hk hwalk) (hk.directory place hheld) hname

/-! ## Directories are made -/

/-- Nothing that is there is changed. What is new are directories, at the ends of some paths. -/
structure Prepared (paths : List FilePath) (fs fs' : FileSystem) : Prop where
  working : fs'.working = fs.working
  kept : ∀ q e, fs.entry? q = some e → fs'.entry? q = some e
  added : ∀ q e, fs.entry? q = none → fs'.entry? q = some e →
    e = .directory ∧ ∃ p ∈ paths, fs'.resolve p = .ok q

namespace Prepared

theorem refl (paths : List FilePath) (fs : FileSystem) : Prepared paths fs fs where
  working := rfl
  kept _ _ h := h
  added q e hnone he := by
    rw [hnone] at he
    cases he

theorem keepsDirectories (h : Prepared paths fs fs') : KeepsDirectories fs fs' :=
  ⟨h.working, fun q hq => h.kept q .directory hq⟩

theorem mono {paths' : List FilePath} (h : Prepared paths fs fs') (hp : paths ⊆ paths') :
    Prepared paths' fs fs' where
  working := h.working
  kept := h.kept
  added q e hnone he := by
    obtain ⟨hd, p, hmem, hresolve⟩ := h.added q e hnone he
    exact ⟨hd, p, hp hmem, hresolve⟩

theorem trans (h : Prepared paths fs fs₁) (h' : Prepared paths fs₁ fs') :
    Prepared paths fs fs' where
  working := h'.working.trans h.working
  kept q e he := h'.kept q e (h.kept q e he)
  added q e hnone he := by
    cases he₁ : fs₁.entry? q with
    | none => exact h'.added q e he₁ he
    | some e₁ =>
      obtain ⟨hd, p, hmem, hresolve⟩ := h.added q e₁ hnone he₁
      cases (h'.kept q e₁ he₁).symm.trans he
      exact ⟨hd, p, hmem, resolve_mono h'.keepsDirectories hresolve⟩

end Prepared

/-- A directory is made where there is nothing, or nothing is done. -/
theorem makeDirectory_cases {r : Except SystemFault Unit}
    (h : (makeDirectory p).run fs = (r, fs')) :
    (∃ place name, fs.holder p = .ok (some (place, name)) ∧ fs.entry? (place ++ [name]) = none ∧
        fs' = fs.put (place ++ [name]) .directory) ∨ fs' = fs := by
  unfold makeDirectory at h
  rw [Stateful.run_get_bind] at h
  rcases Stateful.bind_cases h with ⟨held?, fs₂, hheld, h⟩ | ⟨x, hheld, -⟩
  · obtain ⟨hheld, rfl⟩ := Stateful.of_lift hheld
    cases held? with
    | none =>
      cases h
      exact .inr rfl
    | some held =>
      obtain ⟨place, name⟩ := held
      dsimp only at h
      split at h
      · cases h
        exact .inr rfl
      · rename_i hnone
        cases h
        exact .inl ⟨place, name, hheld, hnone, rfl⟩
  · exact .inr (Stateful.of_lift hheld).2

theorem keepsDirectories_put {e : Entry} (h : fs.entry? (place ++ [name]) ≠ some .directory) :
    KeepsDirectories fs (fs.put (place ++ [name]) e) where
  working := rfl
  directory q hq := by
    rw [entry?_put, if_neg]
    · exact hq
    · rintro rfl
      exact h hq

theorem prepared_makeDirectory {r : Except SystemFault Unit}
    (h : (makeDirectory p).run fs = (r, fs')) : Prepared [p] fs fs' := by
  rcases makeDirectory_cases h with ⟨place, name, hheld, hnone, rfl⟩ | rfl
  · have hne : fs.entry? (place ++ [name]) ≠ some .directory := by
      rw [hnone]
      exact Option.some_ne_none _ |>.symm
    refine ⟨rfl, fun q e he => ?_, fun q e hq he => ?_⟩
    · rw [entry?_put, if_neg]
      · exact he
      · rintro rfl
        rw [hnone] at he
        cases he
    · rw [entry?_put] at he
      by_cases hplace : q = place ++ [name]
      · rw [if_pos hplace] at he
        cases he
        rw [hplace]
        exact ⟨rfl, p, List.mem_singleton_self p,
          resolve_of_holder hheld (keepsDirectories_put hne) fun _ => entry?_put_self ..⟩
      · rw [if_neg hplace, hq] at he
        cases he
  · exact .refl _ _

/-- A relation of file systems holds between those before and after directories are made, also when
that fails half-way, if it does so for single directories. -/
theorem makeMissing_induction {R : FileSystem → FileSystem → Prop} (refl : ∀ fs, R fs fs)
    (trans : ∀ fs fs₁ fs', R fs fs₁ → R fs₁ fs' → R fs fs')
    (make : ∀ p ∈ paths, ∀ fs r fs', (makeDirectory p).run fs = (r, fs') → R fs fs')
    {r : Except SystemFault Unit} (h : (makeMissing paths).run fs = (r, fs')) : R fs fs' := by
  induction paths generalizing fs r fs' with
  | nil =>
    cases h
    exact refl _
  | cons p parents ih =>
    have hfirst := make p List.mem_cons_self
    have hunless : ∀ fs r fs', (makeMissing.unlessDirectory p).run fs = (r, fs') → R fs fs' := by
      intro fs r fs' h
      unfold makeMissing.unlessDirectory at h
      rw [Stateful.run_get_bind] at h
      by_cases hd : fs.isDirectory p = true
      · rw [if_pos hd] at h
        cases h
        exact refl _
      · rw [if_neg hd] at h
        exact hfirst _ _ _ h
    have hparents := fun q hq => make q (List.mem_cons_of_mem p hq)
    unfold makeMissing at h
    by_cases hempty : p.text.isEmpty = true
    · rw [if_pos hempty] at h
      cases h
      exact refl _
    rw [if_neg hempty, Stateful.run_get_bind] at h
    split at h
    · rename_i hmake
      cases h
      exact hfirst _ _ _ hmake
    · rcases Stateful.bind_cases h with ⟨u, fs₁, hmake, h⟩ | ⟨x, hmake, -⟩
      · exact trans _ _ _ (ih hparents hmake) (hunless _ _ _ h)
      · exact ih hparents hmake
    · exact hunless _ _ _ h

/-- A file is written to the end of a path, and nothing else is done. -/
structure Written (p : FilePath) (c : Content) (fs fs' : FileSystem) : Prop where
  working : fs'.working = fs.working
  place : ∃ q, fs'.resolve p = .ok q ∧ fs'.entry? q = some (.file c) ∧
    fs.entry? q ≠ some .directory ∧ ∀ q', q' ≠ q → fs'.entry? q' = fs.entry? q'

/-- A file is written in the place of another one, or where there is nothing. -/
theorem written_put {c : Content} (hheld : fs.holder p = .ok (some (place, name)))
    (hopen : p.endsOpen = false) (hd : fs.entry? (place ++ [name]) ≠ some .directory) :
    Written p c fs (fs.put (place ++ [name]) (.file c)) where
  working := rfl
  place := by
    have hresolve := resolve_of_holder hheld (keepsDirectories_put (e := .file c) hd) fun h => by
      rw [hopen] at h
      cases h
    refine ⟨_, hresolve, entry?_put_self .., hd, fun q hq => ?_⟩
    rw [entry?_put, if_neg hq]

/-- A file is put where there is no directory, or nothing is done. -/
theorem writeFile_put_cases {c : Content} {r : Except SystemFault Unit}
    (h : (writeFile p c).run fs = (r, fs')) :
    (r = .ok () ∧ ∃ place name, fs.holder p = .ok (some (place, name)) ∧ p.endsOpen = false ∧
        fs.entry? (place ++ [name]) ≠ some .directory ∧
        fs' = fs.put (place ++ [name]) (.file c)) ∨ ((∃ x, r = .error x) ∧ fs' = fs) := by
  unfold writeFile at h
  rw [Stateful.run_get_bind] at h
  rcases Stateful.bind_cases h with ⟨held?, fs₂, hheld, h⟩ | ⟨x, hheld, rfl⟩
  · obtain ⟨hheld, rfl⟩ := Stateful.of_lift hheld
    cases held? with
    | none =>
      cases h
      exact .inr ⟨⟨_, rfl⟩, rfl⟩
    | some held =>
      obtain ⟨place, name⟩ := held
      dsimp only at h
      split at h
      · cases h
        exact .inr ⟨⟨_, rfl⟩, rfl⟩
      rename_i hopen
      split at h
      · cases h
        exact .inr ⟨⟨_, rfl⟩, rfl⟩
      rename_i hd
      cases h
      exact .inl ⟨rfl, place, name, hheld, Bool.eq_false_iff.2 hopen, hd, rfl⟩
  · exact .inr ⟨⟨x, rfl⟩, (Stateful.of_lift hheld).2⟩

theorem writeFile_cases {c : Content} {r : Except SystemFault Unit}
    (h : (writeFile p c).run fs = (r, fs')) :
    (r = .ok () ∧ Written p c fs fs') ∨ ((∃ x, r = .error x) ∧ fs' = fs) := by
  rcases writeFile_put_cases h with ⟨rfl, place, name, hheld, hopen, hd, rfl⟩ | hfail
  · exact .inl ⟨rfl, written_put hheld hopen hd⟩
  · exact .inr hfail

theorem Written.keepsDirectories {c : Content} (h : Written p c fs fs') :
    KeepsDirectories fs fs' where
  working := h.working
  directory q hq := by
    obtain ⟨place, -, -, hne, hothers⟩ := h.place
    rw [hothers]
    · exact hq
    · rintro rfl
      exact hne hq

/-- What was written can be read. -/
theorem Written.readContent {c : Content} (h : Written p c fs fs') :
    fs'.readContent p = .ok c := by
  obtain ⟨place, hresolve, he, -⟩ := h.place
  unfold FileSystem.readContent FileSystem.lookup
  simp only [hresolve, he, bind, Except.bind]

/-! ## One change after the other -/

/-- The relation holds between a file system and what becomes of it by making directories and
writing files. -/
structure Persists (R : FileSystem → FileSystem → Prop) : Prop where
  refl : ∀ fs, R fs fs
  trans : ∀ fs fs₁ fs', R fs fs₁ → R fs₁ fs' → R fs fs'
  make : ∀ p fs r fs', (makeDirectory p).run fs = (r, fs') → R fs fs'
  write : ∀ p c fs r fs', (writeFile p c).run fs = (r, fs') → R fs fs'

theorem Persists.makeMissing {R : FileSystem → FileSystem → Prop} {r : Except SystemFault Unit}
    (hR : Persists R) (h : (makeMissing paths).run fs = (r, fs')) : R fs fs' :=
  makeMissing_induction hR.refl hR.trans (fun p _ => hR.make p) h

theorem persists_working : Persists fun fs fs' => fs'.working = fs.working where
  refl _ := rfl
  trans _ _ _ h h' := h'.trans h
  make _ _ _ _ h := (prepared_makeDirectory h).working
  write _ _ _ _ _ h := by
    rcases writeFile_cases h with ⟨-, hwritten⟩ | ⟨-, rfl⟩
    · exact hwritten.working
    · rfl

end CanvasScript.Storage.FileSystem
