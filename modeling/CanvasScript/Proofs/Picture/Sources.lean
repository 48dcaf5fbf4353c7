import CanvasScript.Picture.Painter
import CanvasScript.Proofs.Fault

/-!
# Sources that are kept

While layers are painted, an image source is read when the first layer needs it, and its image is
kept for the later ones. In the picture nothing can be seen of that: it is the one that is painted
when every layer reads its own source.

* `paintAfresh`: a layer on an image, with a source that is read for this layer alone.
* `Obstructs`: why a layer cannot be painted, whatever image it is to be painted on.
* `Sources.Faithful`: what is kept of sources is what can be read of them.
* `paintKeeping`: layers on an image, and the sources that are kept then.

Results:
* `paintLayers_eq_foldlM`: sources that are kept make no difference.
* `foldlM_paintAfresh_eq_error_iff`: the first layer that cannot be painted stops the others.
* `paintLayers_congr`: sources that are kept are not read again.
* `renderLayers_exact`: all of it for the layers of a picture.
-/

namespace CanvasScript.Picture

open Canvas Storage

variable {fs fs' : FileSystem} {faces : Typefaces} {known known' : Sources}
  {image image' : Image} {l : Layer} {layers : List Layer} {source : String} {fault : Fault}

/-! ## Reading every source afresh -/

/-- One layer on an image. Its source is read for it alone. -/
def paintAfresh (fs : FileSystem) (faces : Typefaces) (image : Image) (l : Layer) :
    Except Fault Image :=
  match l.shape with
  | .arc radius p start stop => .ok (paintArc image l.x l.y radius p start stop l.outline?)
  | .circle radius p => .ok (paintCircle image l.x l.y radius p l.outline?)
  | .ellipse size p => .ok (paintEllipse image l.x l.y size p l.outline?)
  | .ellipseImage size source => do
    let i ← loadSource fs source
    .ok (paintImage image l.x l.y size i l.outline?)
  | .text font size colour text align => do
    let t ← requireTypeface faces font
    .ok (drawText t size colour align text l.x l.y image)

/-- Why a layer cannot be painted: its source cannot be read, or its font is not loaded. -/
def Obstructs (fs : FileSystem) (faces : Typefaces) (l : Layer) (fault : Fault) : Prop :=
  match l.shape with
  | .arc .. | .circle .. | .ellipse .. => False
  | .ellipseImage _ source => loadSource fs source = .error fault
  | .text font .. => faces.find? font = none ∧ fault = .render (.fontMissing font)

theorem requireTypeface_eq_error_iff {family : String} :
    requireTypeface faces family = .error fault ↔
      faces.find? family = none ∧ fault = .render (.fontMissing family) := by
  unfold requireTypeface
  cases faces.find? family <;> simp [eq_comm]

/-- Whether a layer can be painted has nothing to do with the image below it. -/
theorem paintAfresh_eq_error_iff :
    paintAfresh fs faces image l = .error fault ↔ Obstructs fs faces l fault := by
  unfold paintAfresh Obstructs
  cases l.shape with
  | arc | circle | ellipse => simp
  | ellipseImage size source => simp [bind_eq_error_iff]
  | text font size colour text align => simp [bind_eq_error_iff, requireTypeface_eq_error_iff]

theorem exists_paintAfresh_of_not_obstructs (h : ∀ fault, ¬ Obstructs fs faces l fault) :
    ∃ image', paintAfresh fs faces image l = .ok image' := by
  cases hp : paintAfresh fs faces image l with
  | error fault => exact absurd (paintAfresh_eq_error_iff.1 hp) (h fault)
  | ok image' => exact ⟨image', rfl⟩

theorem not_obstructs_of_paintAfresh (h : paintAfresh fs faces image l = .ok image')
    (fault : Fault) : ¬ Obstructs fs faces l fault := by
  intro ho
  rw [paintAfresh_eq_error_iff.2 ho] at h
  cases h

/-- The first layer that cannot be painted stops the painting, whatever follows it. -/
theorem foldlM_paintAfresh_eq_error_iff :
    layers.foldlM (paintAfresh fs faces) image = .error fault ↔
      ∃ before l after, layers = before ++ l :: after ∧
        (∀ l' ∈ before, ∀ fault', ¬ Obstructs fs faces l' fault') ∧
        Obstructs fs faces l fault := by
  induction layers generalizing image with
  | nil => simp [pure, Except.pure]
  | cons first layers ih =>
    rw [List.foldlM_cons, bind_eq_error_iff]
    constructor
    · rintro (hfirst | ⟨image', hfirst, hrest⟩)
      · exact ⟨[], first, layers, rfl, by simp, paintAfresh_eq_error_iff.1 hfirst⟩
      · obtain ⟨before, l, after, rfl, hbefore, hl⟩ := ih.1 hrest
        refine ⟨first :: before, l, after, rfl, ?_, hl⟩
        exact List.forall_mem_cons.2 ⟨not_obstructs_of_paintAfresh hfirst, hbefore⟩
    · rintro ⟨before, l, after, hlayers, hbefore, hl⟩
      cases before with
      | nil =>
        obtain ⟨rfl, -⟩ := List.cons.inj hlayers
        exact .inl (paintAfresh_eq_error_iff.2 hl)
      | cons first' before =>
        obtain ⟨rfl, rfl⟩ := List.cons.inj hlayers
        obtain ⟨hfirst, hrest⟩ := List.forall_mem_cons.1 hbefore
        obtain ⟨image', hpaint⟩ :=
          @exists_paintAfresh_of_not_obstructs fs faces image first hfirst
        exact .inr ⟨image', hpaint, ih.2 ⟨before, l, after, rfl, hrest, hl⟩⟩

/-! ## Keeping sources -/

namespace Sources

/-- What is kept of each source is what reading it gives. -/
def Faithful (fs : FileSystem) (known : Sources) : Prop :=
  ∀ source i, known.find? source = some i → loadSource fs source = .ok i

/-- Nothing that is kept is given up. -/
def Grows (known known' : Sources) : Prop :=
  ∀ source i, known.find? source = some i → known'.find? source = some i

theorem faithful_empty : Faithful fs KeyMap.empty := by
  intro source i h
  cases h

theorem faithful_insert {i : Image} (h : Faithful fs known) (hi : loadSource fs source = .ok i) :
    Faithful fs (known.insert source i) := by
  intro source' i' hfind
  rw [KeyMap.find?_insert] at hfind
  split at hfind
  · rename_i hc
    cases hfind
    rwa [Std.LawfulEqCmp.eq_of_compare hc]
  · exact h source' i' hfind

end Sources

/-- A source is fetched from what is kept, or it is read and then kept. -/
theorem fetch_cases {i : Image} (h : fetch fs known source = .ok (i, known')) :
    (known.find? source = some i ∧ known' = known) ∨
      (known.find? source = none ∧ loadSource fs source = .ok i ∧
        known' = known.insert source i) := by
  unfold fetch at h
  split at h
  · rename_i hfind
    cases h
    exact .inl ⟨hfind, rfl⟩
  · rename_i hfind
    obtain ⟨i', hload, h⟩ := of_bind_ok h
    cases h
    exact .inr ⟨hfind, hload, rfl⟩

theorem find?_of_fetch {i : Image} (h : fetch fs known source = .ok (i, known')) :
    known'.find? source = some i := by
  rcases fetch_cases h with ⟨hfind, rfl⟩ | ⟨-, -, rfl⟩
  · exact hfind
  · rw [KeyMap.find?_insert, if_pos Std.ReflCmp.compare_self]

theorem Sources.Grows.fetch {i : Image} (h : fetch fs known source = .ok (i, known')) :
    Grows known known' := by
  intro source' i' hfind
  rcases fetch_cases h with ⟨-, rfl⟩ | ⟨hnone, -, rfl⟩
  · exact hfind
  · rw [KeyMap.find?_insert, if_neg]
    · exact hfind
    · intro hc
      rw [Std.LawfulEqCmp.eq_of_compare hc, hnone] at hfind
      cases hfind

theorem Sources.Faithful.fetch {i : Image} (hk : known.Faithful fs)
    (h : fetch fs known source = .ok (i, known')) :
    known'.Faithful fs ∧ loadSource fs source = .ok i := by
  rcases fetch_cases h with ⟨hfind, rfl⟩ | ⟨-, hload, rfl⟩
  · exact ⟨hk, hk source i hfind⟩
  · exact ⟨faithful_insert hk hload, hload⟩

/-- Where what is kept is what can be read, fetching comes to what reading comes to. -/
theorem map_fetch (h : known.Faithful fs) :
    (fetch fs known source).map Prod.fst = loadSource fs source := by
  unfold Picture.fetch
  split
  · rename_i i hfind
    rw [h source i hfind]
    rfl
  · cases loadSource fs source <;> rfl

/-- The source of a layer, if it is an image. -/
def sourceOf? (l : Layer) : Option String :=
  match l.shape with
  | .ellipseImage _ source => some source
  | .arc .. | .circle .. | .ellipse .. | .text .. => none

/-! ## One layer -/

/-- A layer that needs a source fetches it; the others leave what is kept alone. -/
theorem paintLayer_kept (h : paintLayer fs faces known image l = .ok (image', known')) :
    (sourceOf? l = none ∧ known' = known) ∨
      ∃ source i, sourceOf? l = some source ∧ fetch fs known source = .ok (i, known') := by
  unfold paintLayer at h
  unfold sourceOf?
  cases hs : l.shape with
  | arc | circle | ellipse =>
    rw [hs] at h
    cases h
    exact .inl ⟨rfl, rfl⟩
  | ellipseImage size source =>
    rw [hs] at h
    obtain ⟨⟨i, known₁⟩, hfetch, h⟩ := of_bind_ok h
    cases h
    exact .inr ⟨source, i, rfl, hfetch⟩
  | text font size colour text align =>
    rw [hs] at h
    obtain ⟨t, -, h⟩ := of_bind_ok h
    cases h
    exact .inl ⟨rfl, rfl⟩

theorem Sources.Faithful.paintLayer (hk : known.Faithful fs)
    (h : paintLayer fs faces known image l = .ok (image', known')) : known'.Faithful fs := by
  rcases paintLayer_kept h with ⟨-, rfl⟩ | ⟨source, i, -, hfetch⟩
  · exact hk
  · exact (hk.fetch hfetch).1

theorem Sources.Grows.paintLayer (h : paintLayer fs faces known image l = .ok (image', known')) :
    Grows known known' := by
  rcases paintLayer_kept h with ⟨-, rfl⟩ | ⟨source, i, -, hfetch⟩
  · exact fun _ _ hfind => hfind
  · exact .fetch hfetch

/-- Sources that are kept make no difference to a layer. -/
theorem map_paintLayer (h : known.Faithful fs) :
    (paintLayer fs faces known image l).map Prod.fst = paintAfresh fs faces image l := by
  unfold Picture.paintLayer paintAfresh
  cases l.shape with
  | arc | circle | ellipse => rfl
  | ellipseImage size source =>
    dsimp only
    rw [← map_fetch h]
    cases Picture.fetch fs known source <;> rfl
  | text font size colour text align =>
    dsimp only
    cases requireTypeface faces font <;> rfl

/-- A layer looks for no file but that of its source, and not for that one if it is kept. -/
theorem paintLayer_congr (h : ∀ source, sourceOf? l = some source → known.find? source = none →
    loadSource fs' source = loadSource fs source) :
    paintLayer fs' faces known image l = paintLayer fs faces known image l := by
  unfold Picture.paintLayer
  unfold sourceOf? at h
  cases hs : l.shape with
  | arc | circle | ellipse | text => rfl
  | ellipseImage size source =>
    have hfetch : Picture.fetch fs' known source = Picture.fetch fs known source := by
      unfold Picture.fetch
      cases hfind : known.find? source with
      | some i => rfl
      | none =>
        rw [hs] at h
        dsimp only
        rw [h source rfl hfind]
    dsimp only
    rw [hfetch]

/-! ## All layers -/

/-- Layers on an image, in order, and the sources that are kept then. -/
def paintKeeping (fs : FileSystem) (faces : Typefaces) :
    List Layer → Sources → Image → Except Fault (Image × Sources)
  | [], known, image => .ok (image, known)
  | l :: ls, known, image => do
    let (image, known) ← paintLayer fs faces known image l
    paintKeeping fs faces ls known image

theorem paintLayers_append (a b : List Layer) (known : Sources) (image : Image) :
    paintLayers fs faces (a ++ b) known image =
      paintKeeping fs faces a known image >>= fun kept => paintLayers fs faces b kept.2 kept.1 := by
  induction a generalizing known image with
  | nil => rfl
  | cons l a ih =>
    rw [List.cons_append, paintLayers, paintKeeping, bind_assoc]
    exact bind_congr fun kept => ih kept.2 kept.1

/-- Where what is kept is what can be read, keeping sources makes no difference. -/
theorem paintLayers_eq_foldlM (h : known.Faithful fs) :
    paintLayers fs faces layers known image = layers.foldlM (paintAfresh fs faces) image := by
  induction layers generalizing known image with
  | nil => rfl
  | cons l layers ih =>
    rw [paintLayers, List.foldlM_cons, ← map_paintLayer h]
    cases hl : paintLayer fs faces known image l with
    | error fault => rfl
    | ok kept => exact ih (h.paintLayer hl)

/-- The sources of all layers painted so far are kept. -/
theorem find?_of_paintKeeping
    (h : paintKeeping fs faces layers known image = .ok (image', known')) :
    known.Grows known' ∧ ∀ source ∈ layers.filterMap sourceOf?, known'.find? source ≠ none := by
  induction layers generalizing known image with
  | nil =>
    cases h
    exact ⟨fun _ _ hfind => hfind, by simp⟩
  | cons l layers ih =>
    obtain ⟨⟨image₁, known₁⟩, hl, h⟩ := of_bind_ok h
    obtain ⟨hgrows, hkept⟩ := ih h
    refine ⟨fun source i hfind => hgrows source i (Sources.Grows.paintLayer hl source i hfind),
      fun source hmem => ?_⟩
    obtain ⟨l', hl', hsource⟩ := List.mem_filterMap.1 hmem
    rcases List.mem_cons.1 hl' with rfl | hl'
    · rcases paintLayer_kept hl with ⟨hnone, -⟩ | ⟨source', i, hsource', hfetch⟩
      · rw [hnone] at hsource
        cases hsource
      · cases hsource.symm.trans hsource'
        rw [hgrows source i (find?_of_fetch hfetch)]
        exact Option.some_ne_none i
    · exact hkept source (List.mem_filterMap.2 ⟨l', hl', hsource⟩)

/-- Sources that are kept are not read again: whatever has become of their files, the layers are
painted as they were. -/
theorem paintLayers_congr (h : ∀ source ∈ layers.filterMap sourceOf?, known.find? source = none →
    loadSource fs' source = loadSource fs source) :
    paintLayers fs' faces layers known image = paintLayers fs faces layers known image := by
  induction layers generalizing known image with
  | nil => rfl
  | cons l layers ih =>
    have hl : paintLayer fs' faces known image l = paintLayer fs faces known image l :=
      paintLayer_congr fun source hsource =>
        h source (List.mem_filterMap.2 ⟨l, List.mem_cons_self, hsource⟩)
    rw [paintLayers, paintLayers, hl]
    cases hp : paintLayer fs faces known image l with
    | error fault => rfl
    | ok kept =>
      refine ih fun source hmem hnone => ?_
      obtain ⟨l', hl', hsource⟩ := List.mem_filterMap.1 hmem
      refine h source (List.mem_filterMap.2 ⟨l', List.mem_cons_of_mem l hl', hsource⟩) ?_
      cases hfind : known.find? source with
      | none => rfl
      | some i =>
        rw [Sources.Grows.paintLayer hp source i hfind] at hnone
        cases hnone

/-- **Keeping sources cannot be seen.** The layers on a transparent image of some size are painted,
or fail to be, as if each of them read its own source. Hence the first layers are painted and then
the others on top of them, and the fault is that of the first layer whose source cannot be read or
whose font is not loaded, whatever follows it. Sources that the first layers have read are not read
again: the others are painted the same whatever becomes of these files. -/
theorem renderLayers_exact (fs : FileSystem) (faces : Typefaces) (width height : Nat) :
    (∀ layers, renderLayers fs faces width height layers =
      layers.foldlM (paintAfresh fs faces) (Image.blank width height)) ∧
    (∀ a b, renderLayers fs faces width height (a ++ b) =
      renderLayers fs faces width height a >>= b.foldlM (paintAfresh fs faces)) ∧
    (∀ layers fault, renderLayers fs faces width height layers = .error fault ↔
      ∃ before l after, layers = before ++ l :: after ∧
        (∀ l' ∈ before, ∀ fault', ¬ Obstructs fs faces l' fault') ∧
        Obstructs fs faces l fault) ∧
    ∀ a b fs', (∀ source ∈ b.filterMap sourceOf?, source ∉ a.filterMap sourceOf? →
        loadSource fs' source = loadSource fs source) →
      renderLayers fs faces width height (a ++ b) =
        paintKeeping fs faces a KeyMap.empty (Image.blank width height) >>= fun kept =>
          paintLayers fs' faces b kept.2 kept.1 := by
  have hafresh : ∀ layers, renderLayers fs faces width height layers =
      layers.foldlM (paintAfresh fs faces) (Image.blank width height) :=
    fun layers => paintLayers_eq_foldlM Sources.faithful_empty
  refine ⟨hafresh, fun a b => ?_, fun layers fault => ?_, fun a b fs' h => ?_⟩
  · rw [hafresh, hafresh, List.foldlM_append]
  · rw [hafresh]
    exact foldlM_paintAfresh_eq_error_iff
  · rw [renderLayers, paintLayers_append]
    cases ha : paintKeeping fs faces a KeyMap.empty (Image.blank width height) with
    | error fault => rfl
    | ok kept =>
      refine (paintLayers_congr fun source hmem hnone => h source hmem fun hread => ?_).symm
      exact (find?_of_paintKeeping ha).2 source hread hnone

end CanvasScript.Picture
