import CanvasScript.Storage.FilePath

/-!
# Names at the end of paths

* `FilePath.IsName`: the texts that files and directories can be called.
* `FilePath.Component`, `FilePath.components`: the parts by which paths are compared. Idle dots and
  slashes are no parts.
* `FilePath.Precedes`: the order of paths, part by part.

Results, for a name at the end of a path:
* `segments_child`, `isAbsolute_child`, `endsOpen_child`: it is the last one to be followed.
* `components_child`, `extension?_child`: it is the last part, and decides on the extension.
* `size_le_child`: it makes the path longer.
-/

namespace CanvasScript.Storage.FilePath

variable {p base : FilePath} {name : String} {names : List String} {cs ds : List Char}

/-- The text is a name that a file or a directory can have. -/
structure IsName (name : String) : Prop where
  nonempty : name ≠ ""
  slashless : '/' ∉ name.toList
  endless : '\x00' ∉ name.toList
  ne_dot : name ≠ "."
  ne_dots : name ≠ ".."

instance : Decidable (IsName name) :=
  decidable_of_iff
    (name ≠ "" ∧ '/' ∉ name.toList ∧ '\x00' ∉ name.toList ∧ name ≠ "." ∧ name ≠ "..")
    ⟨fun ⟨h₁, h₂, h₃, h₄, h₅⟩ => ⟨h₁, h₂, h₃, h₄, h₅⟩,
      fun ⟨h₁, h₂, h₃, h₄, h₅⟩ => ⟨h₁, h₂, h₃, h₄, h₅⟩⟩

/-! ## Pieces between slashes -/

theorem splitSlashes_ne_nil (cs : List Char) : splitSlashes cs ≠ [] := by
  cases cs with
  | nil => exact List.cons_ne_nil _ _
  | cons c cs =>
    unfold splitSlashes
    split
    · exact List.cons_ne_nil _ _
    · split <;> exact List.cons_ne_nil _ _

/-- A slash begins a new piece. -/
theorem splitSlashes_slash (cs : List Char) : splitSlashes ('/' :: cs) = [] :: splitSlashes cs := by
  rw [splitSlashes]
  cases h : splitSlashes cs with
  | nil => exact absurd h (splitSlashes_ne_nil cs)
  | cons piece pieces => rfl

/-- Any other character goes on with the first piece. -/
theorem splitSlashes_cons {c : Char} {piece : List Char} {pieces : List (List Char)}
    (hc : c ≠ '/') (h : splitSlashes cs = piece :: pieces) :
    splitSlashes (c :: cs) = (c :: piece) :: pieces := by
  rw [splitSlashes, h]
  exact if_neg hc

theorem splitSlashes_append_slash (cs ds : List Char) :
    splitSlashes (cs ++ '/' :: ds) = splitSlashes cs ++ splitSlashes ds := by
  induction cs with
  | nil => exact splitSlashes_slash ds
  | cons c cs ih =>
    by_cases hc : c = '/'
    · subst hc
      rw [List.cons_append, splitSlashes_slash, splitSlashes_slash, ih, List.cons_append]
    · cases h : splitSlashes cs with
      | nil => exact absurd h (splitSlashes_ne_nil cs)
      | cons piece pieces =>
        rw [h, List.cons_append] at ih
        rw [List.cons_append, splitSlashes_cons hc h, splitSlashes_cons hc ih, List.cons_append]

theorem splitSlashes_of_slashless (h : '/' ∉ cs) : splitSlashes cs = [cs] := by
  induction cs with
  | nil => rfl
  | cons c cs ih =>
    obtain ⟨hc, hcs⟩ := not_or.1 (mt List.mem_cons.2 h)
    exact splitSlashes_cons (Ne.symm hc) (ih hcs)

/-- The characters of the pieces are those of the whole, and no slashes. -/
theorem of_mem_splitSlashes {piece : List Char} {c : Char} (h : piece ∈ splitSlashes cs)
    (hc : c ∈ piece) : c ∈ cs ∧ c ≠ '/' := by
  induction cs generalizing piece with
  | nil =>
    cases List.mem_singleton.1 h
    cases hc
  | cons c' cs ih =>
    by_cases hslash : c' = '/'
    · subst hslash
      rw [splitSlashes_slash] at h
      rcases List.mem_cons.1 h with rfl | h
      · cases hc
      · exact (ih h hc).imp_left (List.mem_cons_of_mem _)
    · cases hcs : splitSlashes cs with
      | nil => exact absurd hcs (splitSlashes_ne_nil cs)
      | cons first pieces =>
        rw [hcs] at ih
        rw [splitSlashes_cons hslash hcs] at h
        rcases List.mem_cons.1 h with rfl | h
        · rcases List.mem_cons.1 hc with rfl | hc
          · exact ⟨List.mem_cons_self, hslash⟩
          · exact (ih List.mem_cons_self hc).imp_left (List.mem_cons_of_mem _)
        · exact (ih (List.mem_cons_of_mem _ h) hc).imp_left (List.mem_cons_of_mem _)

/-- Names on the way are names of files and directories, but for dots. -/
theorem isName_of_mem_segments (hend : '\x00' ∉ p.text.toList) (h : name ∈ p.segments)
    (hdot : name ≠ ".") (hdots : name ≠ "..") : IsName name := by
  obtain ⟨piece, hpiece, rfl⟩ := List.mem_map.1 h
  obtain ⟨hpiece, hne⟩ := List.mem_filter.1 hpiece
  have hmem : ∀ c ∈ (String.ofList piece).toList, c ∈ p.text.toList ∧ c ≠ '/' := fun c hc => by
    rw [String.toList_ofList] at hc
    exact of_mem_splitSlashes hpiece hc
  refine ⟨fun hempty => ?_, fun hc => (hmem _ hc).2 rfl, fun hc => hend (hmem _ hc).1, hdot, hdots⟩
  have hnil := String.toList_eq_nil_iff.2 hempty
  rw [String.toList_ofList] at hnil
  simp [hnil] at hne

/-! ## One more name -/

theorem IsName.toList_ne_nil (h : IsName name) : name.toList ≠ [] :=
  fun hnil => h.nonempty (String.toList_eq_nil_iff.1 hnil)

theorem isAbsolute_iff : p.isAbsolute = true ↔ p.text.toList.head? = some '/' := by
  unfold isAbsolute
  rw [String.startsWith_string_iff]
  cases p.text.toList with
  | nil => simp
  | cons c cs => simp [eq_comm]

theorem IsName.not_isAbsolute (h : IsName name) : (⟨name⟩ : FilePath).isAbsolute = false := by
  rw [Bool.eq_false_iff, Ne, isAbsolute_iff]
  exact fun hhead => h.slashless (List.mem_of_mem_head? hhead)

/-- What stands before a name at the end of a path: the path, and a slash behind it. -/
theorem exists_child (hbase : base.text ≠ "") (h : IsName name) :
    ∃ cs, (base.child name).text.toList = cs ++ '/' :: name.toList ∧
      (base.text.toList = cs ++ ['/'] ∧ (base.child name).text = base.text ++ name ∨
        base.text.toList = cs ∧ (base.child name).text = base.text ++ "/" ++ name) := by
  have hempty : base.text.isEmpty = false := by
    rw [Bool.eq_false_iff, Ne, String.isEmpty_iff]
    exact hbase
  unfold child join
  rw [h.not_isAbsolute, hempty, Bool.or_false, if_neg Bool.false_ne_true]
  split
  · rename_i hopen
    obtain ⟨cs, hcs⟩ := List.getLast?_eq_some_iff.1 (beq_iff_eq.1 hopen)
    refine ⟨cs, ?_, .inl ⟨hcs, rfl⟩⟩
    rw [String.toList_append, hcs, List.append_assoc]
    rfl
  · refine ⟨base.text.toList, ?_, .inr ⟨rfl, rfl⟩⟩
    rw [String.toList_append, String.toList_append, List.append_assoc]
    rfl

/-- A name is followed behind everything that the path leads through. -/
theorem segments_child (hbase : base.text ≠ "") (h : IsName name) :
    (base.child name).segments = base.segments ++ [name] := by
  obtain ⟨cs, hchild, ⟨hcs, -⟩ | ⟨hcs, -⟩⟩ := exists_child hbase h
  all_goals
    have hname : name.toList.isEmpty = false := by simp [h.toList_ne_nil]
    unfold segments
    rw [hchild, hcs]
    simp [splitSlashes_append_slash, splitSlashes_of_slashless h.slashless, hname, splitSlashes]

theorem isAbsolute_child (hbase : base.text ≠ "") (h : IsName name) :
    (base.child name).isAbsolute = base.isAbsolute := by
  rw [Bool.eq_iff_iff, isAbsolute_iff, isAbsolute_iff]
  obtain ⟨cs, hchild, ⟨hcs, -⟩ | ⟨hcs, -⟩⟩ := exists_child hbase h
  · rw [hchild, hcs]
    cases cs <;> rfl
  · rw [hchild, hcs]
    cases cs with
    | nil => exact absurd (String.toList_eq_nil_iff.1 hcs) hbase
    | cons c cs => rfl

theorem endsOpen_child (hbase : base.text ≠ "") (h : IsName name) :
    (base.child name).endsOpen = false := by
  obtain ⟨cs, hchild, -⟩ := exists_child hbase h
  rw [endsOpen, hchild, List.getLast?_append, List.getLast?_cons_of_ne_nil h.toList_ne_nil,
    List.getLast?_eq_some_getLast h.toList_ne_nil, Option.some_or]
  refine beq_eq_false_iff_ne.2 fun heq => h.slashless ?_
  rw [← Option.some.inj heq]
  exact List.getLast_mem _

theorem text_child_ne_empty (hbase : base.text ≠ "") (h : IsName name) :
    (base.child name).text ≠ "" := by
  obtain ⟨cs, hchild, -⟩ := exists_child hbase h
  intro hempty
  rw [hempty] at hchild
  simp at hchild

/-- With another name a path is longer by that name, at least. -/
theorem size_le_child (hbase : base.text ≠ "") (h : IsName name) :
    base.text.utf8ByteSize + name.utf8ByteSize ≤ (base.child name).text.utf8ByteSize := by
  obtain ⟨cs, -, ⟨-, htext⟩ | ⟨-, htext⟩⟩ := exists_child hbase h <;>
  · rw [htext]
    simp only [String.utf8ByteSize_append]
    omega

/-! ## Parts in order -/

/-- A part of a path, by which it is compared with others. The kinds are in order. -/
inductive Component where
  | root
  /-- A dot that a path begins with. -/
  | current
  | parent
  | name (s : String)
deriving DecidableEq, Ord

/-- The part that a name on the way stands for. -/
def Component.ofName (name : String) : Component :=
  if name = ".." then .parent else .name name

/-- What a path begins with, if it does not begin with a name. -/
def start (p : FilePath) : List Component :=
  if p.isAbsolute then [.root] else if p.segments.head? = some "." then [.current] else []

/-- The parts of a path. Dots behind the first part, and slashes, make no difference. -/
def components (p : FilePath) : List Component :=
  p.start ++ (p.segments.filter (· ≠ ".")).map .ofName

/-- The order of paths: that of the first parts that are different. -/
def Precedes (p q : FilePath) : Prop :=
  compare p.components q.components = .lt

theorem compare_name (s t : String) : compare (Component.name s) (.name t) = compare s t := by
  simp [compare, instOrdComponent.ord]

instance : Std.ReflOrd Component where
  compare_self {c} := by
    cases c with
    | root | current | parent => rfl
    | name s => exact (compare_name s s).trans Std.ReflCmp.compare_self

/-- What two lists begin with does not matter to their order. -/
theorem compare_append {α : Type} [Ord α] [Std.ReflOrd α] (xs ys zs : List α) :
    compare (xs ++ ys) (xs ++ zs) = compare ys zs := by
  induction xs with
  | nil => rfl
  | cons x xs ih =>
    have hx : compare x x = .eq := Std.ReflCmp.compare_self
    rw [List.cons_append, List.cons_append, List.compare_cons_cons, hx, ih]
    rfl

theorem compare_map_name (names names' : List String) :
    compare (names.map Component.name) (names'.map .name) = compare names names' := by
  induction names generalizing names' with
  | nil => cases names' <;> rfl
  | cons name names ih =>
    cases names' with
    | nil => rfl
    | cons name' names' =>
      rw [List.map_cons, List.map_cons, List.compare_cons_cons, List.compare_cons_cons,
        compare_name, ih]

/-- Behind the same parts, paths are in the order of the names that lead on. -/
theorem precedes_iff {q : FilePath} {parts : List Component} {names' : List String}
    (hp : p.components = parts ++ names.map .name)
    (hq : q.components = parts ++ names'.map .name) :
    Precedes p q ↔ compare names names' = .lt := by
  rw [Precedes, hp, hq, compare_append, compare_map_name]

theorem not_precedes_self (p : FilePath) : ¬Precedes p p := by
  have hself : compare p.components p.components = .eq := Std.ReflCmp.compare_self
  rw [Precedes, hself]
  exact Ordering.noConfusion

/-- A name at the end of a path is its last part. -/
theorem components_child (hbase : base.text ≠ "") (h : IsName name) :
    (base.child name).components = base.components ++ [.name name] := by
  have hstart : (base.child name).start = base.start := by
    unfold start
    rw [isAbsolute_child hbase h, segments_child hbase h]
    cases base.segments with
    | nil => simp [h.ne_dot]
    | cons first names => rfl
  unfold components
  rw [hstart, segments_child hbase h]
  simp [h.ne_dot, h.ne_dots, Component.ofName]

/-! ## The last name -/

/-- The last of some characters that are a name, or names with slashes between them. -/
theorem takeWhile_reverse (hslash : '/' ∉ ds) (hcs : cs = ds ∨ ∃ front, cs = front ++ '/' :: ds) :
    cs.reverse.takeWhile (· != '/') = ds.reverse := by
  have hall : ∀ c ∈ ds.reverse, (c != '/') = true := fun c hc => by
    rw [bne_iff_ne]
    rintro rfl
    exact hslash (List.mem_reverse.1 hc)
  rcases hcs with rfl | ⟨front, rfl⟩
  · rw [← List.append_nil cs.reverse, List.takeWhile_append_of_pos hall]
    rfl
  · rw [List.reverse_append, List.reverse_cons, List.append_assoc,
      List.takeWhile_append_of_pos hall]
    simp

theorem trimEnd_of_name (h : IsName name)
    (hcs : cs = name.toList ∨ ∃ front, cs = front ++ '/' :: name.toList) : trimEnd cs = cs := by
  have hdot : name.toList.reverse ≠ ['.'] := fun hrev => h.ne_dot (by
    rw [← String.ofList_toList (s := name), ← List.reverse_reverse name.toList, hrev]
    rfl)
  have hempty : name.toList.reverse.isEmpty = false := by simp [h.toList_ne_nil]
  rw [trimEnd, dropIdle, takeWhile_reverse h.slashless hcs, hempty]
  simp [hdot]

/-- Behind its start, a path with a name at its end still has that name at its end. -/
theorem drop_startLength (cs ds : List Char) :
    (cs ++ '/' :: ds).drop (startLength (cs ++ '/' :: ds)) = ds ∨
      ∃ front, (cs ++ '/' :: ds).drop (startLength (cs ++ '/' :: ds)) = front ++ '/' :: ds := by
  cases cs with
  | nil => exact .inl rfl
  | cons c cs =>
    refine .inr ?_
    rw [List.cons_append]
    unfold startLength
    split
    · exact ⟨cs, rfl⟩
    · rename_i hdot
      simp at hdot
    · exact ⟨cs, rfl⟩
    · exact ⟨c :: cs, rfl⟩

theorem fileName?_child (hbase : base.text ≠ "") (h : IsName name) :
    (base.child name).fileName? = some name := by
  obtain ⟨cs, hchild, -⟩ := exists_child hbase h
  have hend := drop_startLength cs name.toList
  rw [← hchild] at hend
  unfold fileName?
  simp only [trimEnd_of_name h hend, takeWhile_reverse h.slashless hend, List.reverse_reverse]
  have hempty : name.toList.isEmpty = false := by simp [h.toList_ne_nil]
  have hdots : name.toList ≠ ['.', '.'] := fun heq => h.ne_dots (by
    rw [← String.ofList_toList (s := name), heq])
  rw [hempty, String.ofList_toList]
  simp [hdots]

/-- The extension of a path with a name at its end is that of the name. -/
theorem extension?_child (hbase : base.text ≠ "") (h : IsName name) :
    (base.child name).extension? = extensionOf? name := by
  rw [extension?, fileName?_child hbase h, Option.bind_some]

end CanvasScript.Storage.FilePath
