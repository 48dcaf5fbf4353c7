import CanvasScript.CommandLine.Scripts
import CanvasScript.Proofs.Fault
import CanvasScript.Proofs.Storage.Tree

/-!
# Scripts that paths lead to

A directory is searched at all depths. Every directory on the way is opened by its path, so that
those are passed over whose path has become too long.

* `LeadsTo`: the scripts that a file or a directory leads to, told by the tree of files.

Results:
* `components_descend`, `extension?_descend`: the paths that lead on from a directory.
* `isReached_iff`: what lies below a directory is reached unless the path to it is too long.
* `mem_scriptsIn_iff`, `pairwise_scriptsIn`: a search finds what lies below, in the order of paths.
* `collectScripts_exact`: when collecting fails, and what it collects otherwise.
-/

namespace CanvasScript.CommandLine

open Storage FileSystem FilePath

variable {fs : FileSystem} {extension : String} {p q : FilePath} {place : Place} {name : String}
  {names : List String} {paths : List FilePath} {part : List FilePath}

/-! ## Paths that lead on -/

theorem descend_append (p : FilePath) (names names' : List String) :
    descend p (names ++ names') = descend (descend p names) names' :=
  List.foldl_append ..

theorem descend_singleton (p : FilePath) (name : String) : descend p [name] = p.child name :=
  rfl

theorem text_descend_ne_empty (hp : p.text ≠ "") (hnames : ∀ name ∈ names, IsName name) :
    (descend p names).text ≠ "" := by
  induction names generalizing p with
  | nil => exact hp
  | cons name names ih =>
    obtain ⟨hname, hnames⟩ := List.forall_mem_cons.1 hnames
    exact ih (text_child_ne_empty hp hname) hnames

theorem components_descend (hp : p.text ≠ "") (hnames : ∀ name ∈ names, IsName name) :
    (descend p names).components = p.components ++ names.map .name := by
  induction names generalizing p with
  | nil => exact (List.append_nil _).symm
  | cons name names ih =>
    obtain ⟨hname, hnames⟩ := List.forall_mem_cons.1 hnames
    refine (ih (text_child_ne_empty hp hname) hnames).trans ?_
    rw [components_child hp hname, List.append_assoc]
    rfl

/-- With more names a path is not shorter. -/
theorem size_descend_le (hp : p.text ≠ "") (hnames : ∀ name ∈ names, IsName name) :
    p.text.utf8ByteSize ≤ (descend p names).text.utf8ByteSize := by
  induction names generalizing p with
  | nil => exact Nat.le_refl _
  | cons name names ih =>
    obtain ⟨hname, hnames⟩ := List.forall_mem_cons.1 hnames
    have hchild := size_le_child hp hname
    have hrest := ih (text_child_ne_empty hp hname) hnames
    exact Nat.le_trans (Nat.le_of_add_right_le hchild) hrest

/-- The extension of a path that leads on is that of its last name. -/
theorem extension?_descend (hp : p.text ≠ "") (hnames : ∀ name ∈ names, IsName name)
    (hne : names ≠ []) :
    (descend p names).extension? = names.getLast?.bind extensionOf? := by
  obtain ⟨front, last, rfl⟩ := (List.eq_nil_or_concat' names).resolve_left hne
  obtain ⟨hfront, hlast⟩ := List.forall_mem_append.1 hnames
  rw [descend_append, List.getLast?_concat, Option.bind_some]
  exact extension?_child (text_descend_ne_empty hp hfront) (List.forall_mem_singleton.1 hlast)

/-! ## What is reached -/

/-- A directory below another one can be opened by its path, unless this is too long. -/
theorem resolve_descend (hfs : fs.WellFormed) (hp : fs.resolve p = .ok place)
    (hd : fs.entry? (place ++ names) = some .directory)
    (hsize : (descend p names).text.utf8ByteSize < pathLimit) :
    fs.resolve (descend p names) = .ok (place ++ names) := by
  induction names generalizing p place with
  | nil =>
    rw [List.append_nil]
    exact hp
  | cons name names ih =>
    have hnames : ∀ name' ∈ name :: names, IsName name' := fun name' h =>
      (hfs.named _ _ hd name' (List.mem_append_right _ h)).toIsName
    have hentry := hfs.named _ _ hd name (by simp)
    obtain ⟨-, hne, -⟩ := requireFit_eq_ok_iff.1 (resolve_eq_ok_iff.1 hp).1
    have hchild : (p.child name).text.utf8ByteSize < pathLimit :=
      Nat.lt_of_le_of_lt (size_descend_le (text_child_ne_empty hne hentry.toIsName)
        (List.forall_mem_cons.1 hnames).2) hsize
    have hplace := hfs.entry?_of_append (List.cons_ne_nil _ _) hd
    rw [List.append_cons] at hd ⊢
    exact ih ((resolve_child hp hplace hentry).2 ⟨hchild, rfl⟩) hd hsize

/-- What lies below a directory is reached, unless the path of the directory that holds it is too
long. -/
theorem isReached_iff (hfs : fs.WellFormed) (hp : fs.resolve p = .ok place)
    (h : fs.LiesBelow place names) :
    isReached fs p names = true ↔ (descend p names.dropLast).text.utf8ByteSize < pathLimit := by
  obtain ⟨hne, c, hfile⟩ := mem_filesBelow.1 ((mem_filesBelow_iff hfs).2 h)
  have hlength := List.length_pos_iff.2 hne
  have hnames := h.isName hfs
  obtain ⟨-, htext, -⟩ := requireFit_eq_ok_iff.1 (resolve_eq_ok_iff.1 hp).1
  unfold isReached
  rw [List.all_eq_true]
  constructor
  · intro hall
    have hlast := hall (names.length - 1) (List.mem_range.2 (by omega))
    rw [← List.dropLast_eq_take] at hlast
    obtain ⟨q, hq, -⟩ := isDirectory_iff.1 hlast
    exact (requireFit_eq_ok_iff.1 (resolve_eq_ok_iff.1 hq).1).2.2
  · intro hsize n hn
    have hn := List.mem_range.1 hn
    have hd : fs.entry? (place ++ names.take n) = some .directory := by
      rw [← List.take_append_drop n names, ← List.append_assoc] at hfile
      exact hfs.entry?_of_append (List.drop_eq_nil_iff.not.2 (Nat.not_le.2 hn)) hfile
    have hsplit : names.dropLast = names.take n ++ names.dropLast.drop n := by
      conv_lhs => rw [← List.take_append_drop n names.dropLast]
      rw [List.dropLast_eq_take, List.take_take, Nat.min_eq_left (Nat.le_sub_one_of_lt hn)]
    rw [hsplit, descend_append] at hsize
    refine isDirectory_iff.2 ⟨_, resolve_descend hfs hp hd (Nat.lt_of_le_of_lt ?_ hsize), hd⟩
    refine size_descend_le (text_descend_ne_empty htext fun name h => ?_) fun name h => ?_
    · exact hnames name (List.mem_of_mem_take h)
    · exact hnames name (List.dropLast_subset _ (List.mem_of_mem_drop h))

/-! ## What is collected -/

/-- The scripts that a path leads to. -/
inductive LeadsTo (fs : FileSystem) (extension : String) (p : FilePath) : List FilePath → Prop
  /-- A file is taken as it is given. -/
  | file (h : fs.isFile p = true) : LeadsTo fs extension p [p]
  /-- A directory leads to all files of the extension below it, at any depth, unless the path of the
  directory that holds a file is too long to be followed; to each of them once, in the order of
  paths. -/
  | directory {place : Place} {part : List FilePath} (h : fs.isDirectory p = true)
      (hplace : fs.resolve p = .ok place)
      (hmem : ∀ q, q ∈ part ↔ ∃ names, fs.LiesBelow place names ∧ q = descend p names ∧
        q.extension? = some extension ∧
        (descend p names.dropLast).text.utf8ByteSize < pathLimit)
      (hnodup : part.Nodup) (hsorted : part.Pairwise Precedes) : LeadsTo fs extension p part

theorem hasExtension_iff : hasExtension extension names = true ↔
    names.getLast?.bind extensionOf? = some extension :=
  beq_iff_eq

theorem scriptsIn_of_resolve (hplace : fs.resolve p = .ok place) :
    scriptsIn fs extension p = ((fs.filesBelow place).filter fun names =>
      hasExtension extension names && isReached fs p names).map (descend p) := by
  rw [scriptsIn, hplace]

/-- A search finds the files of the extension that lie below, as far as they are reached. -/
theorem mem_scriptsIn_iff (hfs : fs.WellFormed) (hplace : fs.resolve p = .ok place) :
    q ∈ scriptsIn fs extension p ↔ ∃ names, fs.LiesBelow place names ∧ q = descend p names ∧
      q.extension? = some extension ∧
      (descend p names.dropLast).text.utf8ByteSize < pathLimit := by
  obtain ⟨-, hp, -⟩ := requireFit_eq_ok_iff.1 (resolve_eq_ok_iff.1 hplace).1
  rw [scriptsIn_of_resolve hplace]
  simp only [List.mem_map, List.mem_filter, Bool.and_eq_true, hasExtension_iff,
    mem_filesBelow_iff hfs]
  constructor
  · rintro ⟨names, ⟨hbelow, hext, hreached⟩, rfl⟩
    rw [← extension?_descend hp (hbelow.isName hfs) hbelow.ne_nil] at hext
    exact ⟨names, hbelow, rfl, hext, (isReached_iff hfs hplace hbelow).1 hreached⟩
  · rintro ⟨names, hbelow, rfl, hext, hsize⟩
    rw [extension?_descend hp (hbelow.isName hfs) hbelow.ne_nil] at hext
    exact ⟨names, ⟨hbelow, hext, (isReached_iff hfs hplace hbelow).2 hsize⟩, rfl⟩

/-- What a search finds is in the order of paths. -/
theorem pairwise_scriptsIn (hfs : fs.WellFormed) (hplace : fs.resolve p = .ok place) :
    (scriptsIn fs extension p).Pairwise Precedes := by
  obtain ⟨-, hp, -⟩ := requireFit_eq_ok_iff.1 (resolve_eq_ok_iff.1 hplace).1
  have hcomponents : ∀ names ∈ fs.filesBelow place,
      (descend p names).components = p.components ++ names.map .name :=
    fun names hmem => components_descend hp (((mem_filesBelow_iff hfs).1 hmem).isName hfs)
  rw [scriptsIn_of_resolve hplace, List.pairwise_map]
  refine (List.Pairwise.imp_of_mem (fun {a b} ha hb hlt => ?_)
    (pairwise_filesBelow fs place)).sublist List.filter_sublist
  exact (precedes_iff (hcomponents a ha) (hcomponents b hb)).2 hlt

theorem leadsTo_scriptsIn (hfs : fs.WellFormed) (h : fs.isDirectory p = true) :
    LeadsTo fs extension p (scriptsIn fs extension p) := by
  obtain ⟨place, hplace, -⟩ := isDirectory_iff.1 h
  have hsorted : (scriptsIn fs extension p).Pairwise Precedes := pairwise_scriptsIn hfs hplace
  refine .directory h hplace (fun q => mem_scriptsIn_iff hfs hplace) ?_ hsorted
  unfold List.Nodup
  refine hsorted.imp ?_
  rintro a b hlt rfl
  exact not_precedes_self a hlt

/-- There is a file or a directory at the end of a path: it leads to some scripts. -/
theorem exists_leadsTo (hfs : fs.WellFormed) (extension : String)
    (h : fs.isFile p = true ∨ fs.isDirectory p = true) :
    ∃ part, LeadsTo fs extension p part ∧ scriptsAt fs extension p = .ok part := by
  unfold scriptsAt
  by_cases hfile : fs.isFile p = true
  · exact ⟨[p], .file hfile, if_pos hfile⟩
  · have hd := h.resolve_left hfile
    rw [if_neg hfile, if_pos hd]
    exact ⟨_, leadsTo_scriptsIn hfs hd, rfl⟩

theorem scriptsAt_of_missing (hfile : fs.isFile p = false) (hd : fs.isDirectory p = false) :
    scriptsAt fs extension p = .error (.file p.text "No such file or directory") := by
  unfold scriptsAt
  rw [hfile, hd]
  rfl

theorem collectScripts_cons (fs : FileSystem) (p : FilePath) (paths : List FilePath)
    (extension : String) :
    collectScripts fs (p :: paths) extension = (do
      let part ← scriptsAt fs extension p
      let parts ← collectScripts fs paths extension
      .ok (part ++ parts)) := by
  unfold collectScripts
  rw [List.mapM_cons]
  simp only [bind_assoc, pure_bind, List.flatten_cons]
  rfl

/-- The first path that leads to nothing is blamed. -/
theorem collectScripts_of_missing (hfs : fs.WellFormed) {before after : List FilePath}
    (hbefore : ∀ q ∈ before, fs.isFile q = true ∨ fs.isDirectory q = true)
    (hfile : fs.isFile p = false) (hd : fs.isDirectory p = false) :
    collectScripts fs (before ++ p :: after) extension =
      .error (.file p.text "No such file or directory") := by
  induction before with
  | nil =>
    rw [List.nil_append, collectScripts_cons, scriptsAt_of_missing hfile hd]
    rfl
  | cons q before ih =>
    obtain ⟨hq, hbefore⟩ := List.forall_mem_cons.1 hbefore
    obtain ⟨part, -, hpart⟩ := exists_leadsTo hfs extension hq
    rw [List.cons_append, collectScripts_cons, hpart, ih hbefore]
    rfl

/-- Files and directories lead to scripts, which are put together. -/
theorem exists_collectScripts (hfs : fs.WellFormed) (extension : String)
    (h : ∀ q ∈ paths, fs.isFile q = true ∨ fs.isDirectory q = true) :
    ∃ parts, List.Forall₂ (LeadsTo fs extension) paths parts ∧
      collectScripts fs paths extension = .ok parts.flatten := by
  induction paths with
  | nil => exact ⟨[], .nil, rfl⟩
  | cons p paths ih =>
    obtain ⟨hp, hpaths⟩ := List.forall_mem_cons.1 h
    obtain ⟨part, hleads, hpart⟩ := exists_leadsTo hfs extension hp
    obtain ⟨parts, hparts, hcollect⟩ := ih hpaths
    refine ⟨part :: parts, .cons hleads hparts, ?_⟩
    rw [collectScripts_cons, hpart, hcollect]
    rfl

/-- Collecting fails if and only if some path leads neither to a file nor to a directory, and blames
the first of these. Otherwise it puts together, in order, what the paths lead to. -/
theorem collectScripts_exact (fs : FileSystem) (paths : List FilePath) (extension : String)
    (hfs : fs.WellFormed) :
    ((∃ fault, collectScripts fs paths extension = .error fault) ↔
      ∃ p ∈ paths, fs.isFile p = false ∧ fs.isDirectory p = false) ∧
    (∀ before p after, paths = before ++ p :: after →
      (∀ q ∈ before, fs.isFile q = true ∨ fs.isDirectory q = true) →
      fs.isFile p = false → fs.isDirectory p = false →
      collectScripts fs paths extension =
        .error (.file p.text "No such file or directory")) ∧
    ((∀ p ∈ paths, fs.isFile p = true ∨ fs.isDirectory p = true) →
      ∃ parts, List.Forall₂ (LeadsTo fs extension) paths parts ∧
        collectScripts fs paths extension = .ok parts.flatten) := by
  refine ⟨⟨?_, ?_⟩, ?_, exists_collectScripts hfs extension⟩
  · rintro ⟨fault, hfault⟩
    by_contra hnone
    obtain ⟨parts, -, hok⟩ := exists_collectScripts hfs extension fun q hq => by
      by_contra hmissing
      obtain ⟨hfile, hd⟩ := not_or.1 hmissing
      exact hnone ⟨q, hq, Bool.eq_false_iff.2 hfile, Bool.eq_false_iff.2 hd⟩
    rw [hok] at hfault
    cases hfault
  · rintro ⟨p, hp, hfile, hd⟩
    cases hfirst : paths.find? fun q => !fs.isPresent q with
    | none =>
      have hpresent := List.find?_eq_none.1 hfirst p hp
      simp [isPresent, hfile, hd] at hpresent
    | some q =>
      obtain ⟨hq, before, after, rfl, hbefore⟩ := List.find?_eq_some_iff_append.1 hfirst
      rw [Bool.not_eq_true', isPresent, Bool.or_eq_false_iff] at hq
      refine ⟨_, collectScripts_of_missing hfs (fun q' hq' => ?_) hq.1 hq.2⟩
      simpa [isPresent] using hbefore q' hq'
  · rintro before p after rfl hbefore hfile hd
    exact collectScripts_of_missing hfs hbefore hfile hd

/-- A file of another extension is taken as it is given, and of a directory the scripts in all of
its directories, but no file whose name is the extension alone. -/
theorem collectScripts_cards :
    let fs := ((((((ofWorking ["work"]).put ["work", "cards"] .directory).put
      ["work", "cards", ".easel"] (.file (.text ""))).put
      ["work", "cards", "a.easel"] (.file (.text ""))).put
      ["work", "cards", "a"] .directory).put
      ["work", "cards", "a", "z.easel"] (.file (.text ""))).put
      ["work", "note.txt"] (.file (.text ""))
    fs.WellFormed ∧ ∃ parts,
      List.Forall₂ (LeadsTo fs "easel") [⟨"note.txt"⟩, ⟨"cards"⟩] parts ∧
      parts.flatten = [⟨"note.txt"⟩, ⟨"cards/a/z.easel"⟩, ⟨"cards/a.easel"⟩] := by
  intro fs
  have hfs : fs.WellFormed := by decide +kernel
  have hpaths : ∀ p ∈ [⟨"note.txt"⟩, ⟨"cards"⟩], fs.isFile p = true ∨ fs.isDirectory p = true := by
    decide +kernel
  have hrun : (collectScripts fs [⟨"note.txt"⟩, ⟨"cards"⟩] "easel").toOption =
      some [⟨"note.txt"⟩, ⟨"cards/a/z.easel"⟩, ⟨"cards/a.easel"⟩] := by decide +kernel
  obtain ⟨parts, hparts, hcollect⟩ := (collectScripts_exact fs _ "easel" hfs).2.2 hpaths
  rw [hcollect] at hrun
  exact ⟨hfs, parts, hparts, Option.some.inj hrun⟩

/-! ## What is passed over -/

/-- Nothing is collected from a directory if the paths to all files below it are too long. -/
theorem collectScripts_eq_nil (hfs : fs.WellFormed) (hp : fs.resolve p = .ok place)
    (hd : fs.entry? place = some .directory)
    (hlong : ∀ names, fs.LiesBelow place names →
      pathLimit ≤ (descend p names.dropLast).text.utf8ByteSize) :
    collectScripts fs [p] extension = .ok [] := by
  have hdirectory : fs.isDirectory p = true := isDirectory_iff.2 ⟨place, hp, hd⟩
  obtain ⟨parts, hparts, hcollect⟩ := @exists_collectScripts fs [p] hfs extension
    fun q hq => .inr (by rwa [List.mem_singleton.1 hq])
  rw [hcollect]
  cases hparts with
  | cons hpart hnil =>
    cases hnil
    rw [List.flatten_singleton]
    cases hpart with
    | file hfile =>
      unfold isFile lookup at hfile
      rw [hp] at hfile
      simp [bind, Except.bind, hd] at hfile
    | directory _ hplace hmem =>
      cases hp.symm.trans hplace
      refine congrArg _ (List.eq_nil_iff_forall_not_mem.2 fun q hq => ?_)
      obtain ⟨names, hbelow, -, -, hsize⟩ := (hmem q).1 hq
      exact Nat.not_lt.2 (hlong names hbelow) hsize

/-- The working directory, with slashes behind it. -/
def slashed (n : Nat) : FilePath :=
  ⟨String.ofList ('.' :: List.replicate n '/')⟩

theorem size_slashed (n : Nat) : (slashed n).text.utf8ByteSize = n + 1 := by
  have hslashes : (String.ofList (List.replicate n '/')).utf8ByteSize = n := by
    induction n with
    | zero => rfl
    | succ n ih =>
      rw [List.replicate_succ, String.ofList_cons, String.utf8ByteSize_append, ih,
        String.utf8ByteSize_singleton]
      exact Nat.add_comm 1 n
  rw [slashed, String.ofList_cons, String.utf8ByteSize_append, hslashes,
    String.utf8ByteSize_singleton]
  exact Nat.add_comm 1 n

theorem segments_slashed (n : Nat) : (slashed n).segments = ["."] := by
  have hslashes : splitSlashes (List.replicate n '/') = [] :: List.replicate n [] := by
    induction n with
    | zero => rfl
    | succ n ih => rw [List.replicate_succ, splitSlashes_slash, ih, ← List.replicate_succ]
  unfold segments slashed
  rw [String.toList_ofList, splitSlashes_cons (by decide) hslashes, List.filter_cons_of_pos rfl,
    List.filter_replicate_of_neg (by decide)]
  rfl

/-- Slashes lead nowhere else, as long as they are not too many. -/
theorem resolve_slashed {n : Nat} (hd : fs.entry? fs.working = some .directory)
    (hn : n + 1 < pathLimit) : fs.resolve (slashed n) = .ok fs.working := by
  have htext : (slashed n).text.toList = '.' :: List.replicate n '/' := String.toList_ofList
  have hfit : requireFit (slashed n) = .ok () := by
    refine requireFit_eq_ok_iff.2 ⟨?_, fun hempty => ?_, by rwa [size_slashed]⟩
    · simp [htext]
    · rw [hempty] at htext
      cases htext
  have horigin : fs.origin (slashed n) = fs.working := by
    unfold origin
    rw [if_neg]
    rw [isAbsolute_iff, htext]
    simp
  refine resolve_eq_ok_iff.2 ⟨hfit, ?_, fun _ => hd⟩
  rw [horigin, segments_slashed]
  exact walk_cons_eq_ok_iff.2 ⟨hd, rfl, rfl⟩

/-- Nothing is collected from behind a directory whose path is too long, although there is a file
of the extension. -/
theorem collectScripts_slashed :
    let name := String.ofList (List.replicate 50 'd')
    let fs := ((ofWorking ["work"]).put ["work", name] .directory).put
      ["work", name, "x.easel"] (.file (.text ""))
    fs.WellFormed ∧ fs.isDirectory (slashed 4050) = true ∧
      fs.resolve (slashed 4050) = .ok ["work"] ∧ fs.LiesBelow ["work"] [name, "x.easel"] ∧
      (descend (slashed 4050) [name, "x.easel"]).extension? = some "easel" ∧
      collectScripts fs [slashed 4050] "easel" = .ok [] := by
  intro name fs
  have hfs : fs.WellFormed := by decide +kernel
  have hfiles : fs.filesBelow ["work"] = [[name, "x.easel"]] := by decide +kernel
  have hwork : fs.entry? ["work"] = some .directory := isDirectoryAt_iff.1 (by decide +kernel)
  have hname : IsName name ∧ name.utf8ByteSize = 50 := by decide +kernel
  have hx : IsName "x.easel" := by decide +kernel
  have hextension : extensionOf? "x.easel" = some "easel" := by decide +kernel
  have hbelow : fs.LiesBelow ["work"] [name, "x.easel"] :=
    (mem_filesBelow_iff hfs).1 (hfiles ▸ List.mem_singleton_self _)
  have hworking : fs.working = ["work"] := rfl
  clear_value fs name
  have hresolve : fs.resolve (slashed 4050) = .ok ["work"] := by
    rw [← hworking] at hwork ⊢
    exact resolve_slashed hwork (by decide)
  have htext : (slashed 4050).text ≠ "" :=
    (requireFit_eq_ok_iff.1 (resolve_eq_ok_iff.1 hresolve).1).2.1
  refine ⟨hfs, isDirectory_iff.2 ⟨_, hresolve, hwork⟩, hresolve, hbelow, ?_, ?_⟩
  · have hnames : ∀ name' ∈ [name, "x.easel"], IsName name' := by simp [hname.1, hx]
    rw [extension?_descend htext hnames (List.cons_ne_nil _ _), List.getLast?_cons_cons,
      List.getLast?_singleton, Option.bind_some]
    exact hextension
  · refine collectScripts_eq_nil hfs hresolve hwork fun names hnames => ?_
    have hmem := (mem_filesBelow_iff hfs).2 hnames
    rw [hfiles, List.mem_singleton] at hmem
    subst hmem
    -- The path of the directory `name` is too long.
    have hlong := size_le_child htext hname.1
    rw [size_slashed, hname.2] at hlong
    rw [List.dropLast_cons_cons, List.dropLast_singleton, descend_singleton]
    refine Nat.le_trans ?_ hlong
    unfold pathLimit
    omega

end CanvasScript.CommandLine
