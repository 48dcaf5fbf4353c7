import CanvasScript.Proofs.Command.Blanks
import CanvasScript.Proofs.Run.Eval

/-!
# Arguments that are put off

Whether an argument of a call is evaluated is decided by the place in which it stands, before it is
converted. Conversion goes through the parameters one by one, and a command that evaluates a script
of its own asks for it by name. The three have to mean the same argument, or else a script would be
evaluated in the wrong context.

* `Definition.Takes`: the argument at an index is one that a parameter converts.
* `Definition.Defers`: it is taken as it stands.
* `SameEvaluated`: two calls differ in nothing but the nodes of arguments that are taken so.
* `Deferring`: what becomes of the arguments of a call.

Results:
* `Definition.parameterAt?_eq_some_iff_takes`: the parameter in the place of an argument converts it.
* `Definition.validate_replace`, `Definition.exists_value_of_takes`: validation sees nothing else of
  an argument than what this parameter makes of it, and has that for a value.
* `argument?_name`: a script is found by the name of its parameter.
* `validate_eq_mapM`: all other arguments are evaluated once each, from left to right.
* `deferring_of_check`: all of it for every definition that passes its check.
-/

namespace CanvasScript.Command.Definition

variable {α : Type} {d : Definition α} {p q : Parameter} {raw before after : List String}
  {r r' : String} {i j : Nat}

/-! ## Places -/

/-- The argument at an index is converted by a parameter: the one in its place, or one in a place
before that takes all the rest. -/
def Takes (d : Definition α) (p : Parameter) (j : Nat) : Prop :=
  ∃ i, d.parameters[i]? = some p ∧ i ≤ j ∧ (p.variadic = true ∨ j = i)

/-- The argument at an index is a script. -/
def Defers (d : Definition α) (j : Nat) : Prop :=
  ∃ p, d.Takes p j ∧ p.kind = .script

theorem defers_iff :
    d.Defers j ↔ ∃ e ∈ d.parameters.zipIdx,
      e.2 ≤ j ∧ (e.1.variadic = true ∨ j = e.2) ∧ e.1.kind = .script := by
  simp only [Defers, Takes, Prod.exists, List.mem_zipIdx_iff_getElem?]
  constructor
  · rintro ⟨p, ⟨i, hp, hij, htakes⟩, hk⟩
    exact ⟨p, i, hp, hij, htakes, hk⟩
  · rintro ⟨p, i, hp, hij, htakes, hk⟩
    exact ⟨p, ⟨i, hp, hij, htakes⟩, hk⟩

instance (d : Definition α) (j : Nat) : Decidable (d.Defers j) :=
  decidable_of_iff _ defers_iff.symm

/-- The parameter in the place of an argument converts it. -/
theorem parameterAt?_eq_some_iff_takes (hs : Sound d.parameters) :
    d.parameterAt? j = some p ↔ d.Takes p j :=
  hs.parameterAt?_eq_some_iff

/-- There is only one. -/
theorem Takes.unique (hs : Sound d.parameters) (hp : d.Takes p j) (hq : d.Takes q j) : p = q :=
  Option.some.inj
    (((parameterAt?_eq_some_iff_takes hs).2 hp).symm.trans
      ((parameterAt?_eq_some_iff_takes hs).2 hq))

/-! ## Conversions -/

/-- An argument that is blank in the same way and is converted to the same can stand for another,
whatever the parameter. -/
theorem bind_replace (hblank : Text.allBlank r = Text.allBlank r')
    (hconvert : ∀ p, d.Takes p before.length →
      p.convert d.name (some r) = p.convert d.name (some r'))
    (hq : d.parameters[i]? = some q) :
    d.bind q ((before ++ r :: after).drop i) = d.bind q ((before ++ r' :: after).drop i) := by
  by_cases hi : before.length < i
  · rw [drop_replace hi]
  unfold bind
  by_cases hv : q.variadic = true
  · have hitem := hconvert q ⟨i, hq, by omega, .inl hv⟩
    have hitems : d.collect q ((before ++ r :: after).drop i) =
        d.collect q ((before ++ r' :: after).drop i) := by
      rw [List.drop_append_of_le_length (by omega), List.drop_append_of_le_length (by omega)]
      unfold collect
      rw [List.filter_append, List.filter_append, List.filter_cons, List.filter_cons, hblank]
      split
      · rw [List.mapM_append, List.mapM_append, List.mapM_cons, List.mapM_cons, hitem]
      · rfl
    rw [if_pos hv, if_pos hv, hitems]
  · rw [if_neg hv, if_neg hv, List.head?_drop, List.head?_drop]
    by_cases hplace : i = before.length
    · subst hplace
      simpa using hconvert q ⟨_, hq, Nat.le_refl _, .inr rfl⟩
    · rw [getElem?_replace hplace]

theorem bindAll_congr {ps : List Parameter} {raw raw' : List String}
    (h : ∀ (i : Nat) (p : Parameter), ps[i]? = some p →
      d.bind p (raw.drop i) = d.bind p (raw'.drop i)) :
    d.bindAll ps raw = d.bindAll ps raw' := by
  induction ps generalizing raw raw' with
  | nil => rfl
  | cons p ps ih =>
    have hfirst : d.bind p raw = d.bind p raw' := h 0 p rfl
    have hrest : d.bindAll ps raw.tail = d.bindAll ps raw'.tail := by
      refine ih fun i q hq => ?_
      rw [← List.drop_one, ← List.drop_one, List.drop_drop, List.drop_drop, Nat.add_comm]
      exact h (i + 1) q hq
    rw [bindAll, bindAll, hfirst, hrest]

/-- Where a parameter takes an argument, nothing is left over because of it. -/
theorem surplus?_replace (hs : Sound d.parameters) (hp : d.Takes p before.length) :
    d.surplus? (before ++ r :: after) = d.surplus? (before ++ r' :: after) := by
  unfold surplus?
  split
  · rfl
  · rename_i hnone
    obtain ⟨i, hi, -, hv | rfl⟩ := hp
    · rw [hs.variadic?_of_getElem? hi hv] at hnone
      exact absurd rfl hnone
    · rw [drop_replace (List.getElem?_eq_some_iff.1 hi).1]

/-- Validation sees nothing else of an argument than what its parameter makes of it. -/
theorem validate_replace (hs : Sound d.parameters) (hp : d.Takes p before.length)
    (hblank : Text.allBlank r = Text.allBlank r')
    (hconvert : p.convert d.name (some r) = p.convert d.name (some r')) :
    d.validate (before ++ r :: after) = d.validate (before ++ r' :: after) := by
  have hbind : d.bindAll d.parameters (before ++ r :: after) =
      d.bindAll d.parameters (before ++ r' :: after) := by
    refine bindAll_congr fun i q hq => bind_replace hblank (fun p' hp' => ?_) hq
    rw [hp'.unique hs hp]
    exact hconvert
  rw [validate, validate, hbind, surplus?_replace hs hp]

/-- What the parameter of an argument makes of it is found under its name, by itself or in a
list. -/
theorem exists_value_of_takes (hs : Sound d.parameters) {a : Arguments}
    (ha : d.validate raw = .ok a) (hp : d.Takes p j) (hr : raw[j]? = some r)
    (hblank : Text.allBlank r = false) :
    ∃ v, p.convert d.name (some r) = .ok v ∧
      (a.get? p.name = some v ∨ ∃ items, a.get? p.name = some (.list items) ∧ v ∈ items) := by
  simp only [← toOption_eq_some_iff, Parameter.toOption_convert hblank]
  obtain ⟨i, hi, hij, htakes⟩ := hp
  have htaken : r ∈ p.taken (raw.drop i) := Parameter.mem_taken_iff.2 ⟨j, hr, hij, htakes⟩
  have hread : p.reading r ∈ p.readings (raw.drop i) :=
    Parameter.mem_readings_iff.2 ⟨r, htaken, hblank, rfl⟩
  obtain ⟨value, hvalue, hmakes⟩ := get?_of_validate hs ha hi
  cases hmakes with
  | @items _ items hitems =>
    have hitem : p.take? (p.reading r) ∈ items.map some := hitems ▸ List.mem_map_of_mem hread
    obtain ⟨v, hv, htake⟩ := List.mem_map.1 hitem
    exact ⟨v, htake.symm, .inr ⟨items, hvalue, hv⟩⟩
  | @text hsingle text _ ht htake =>
    rcases Parameter.readings_eq_nil_or hsingle (raw.drop i) with hnil | ⟨text', hone⟩
    · rw [hnil] at hread
      cases hread
    · rw [hone] at ht hread
      cases ht
      rw [List.mem_singleton.1 hread]
      exact ⟨value, htake, .inl hvalue⟩
  | absent hsingle ht =>
    rw [Option.or_eq_none_iff, List.head?_eq_none_iff] at ht
    rw [ht.1] at hread
    cases hread

end CanvasScript.Command.Definition

namespace CanvasScript.Run

open Command Script

variable {α : Type} {d : Definition α} {c : Context α}

/-! ## Scripts by name -/

/-- A parameter is found by its name in its own place. -/
theorem argument?_name (hs : Sound d.parameters) (arguments : List (Delayed α)) {i : Nat}
    {p : Parameter} (hp : d.parameters[i]? = some p) :
    (⟨d, arguments, c⟩ : Invocation α).argument? p.name = arguments[i]? := by
  obtain ⟨hi, rfl⟩ := List.getElem?_eq_some_iff.1 hp
  have hfind : d.parameters.findIdx? (·.name == d.parameters[i].name) = some i := by
    rw [List.findIdx?_eq_some_iff_getElem]
    refine ⟨hi, beq_self_eq_true _, fun k hk => ?_⟩
    have hnames := List.pairwise_iff_getElem.1 hs.names k i (by simpa using hk.trans hi)
      (by simpa using hi) hk
    simpa using hnames
  rw [Invocation.argument?, hfind]

/-! ## Evaluation -/

section Evaluation

variable [Behaviour α]

/-- The raw text of an argument: as it stands if it is a script, and evaluated if not. -/
theorem rawText_delay (hs : Sound d.parameters) (arguments : List (Delayed α)) (j : Nat)
    (a : Argument Location) :
    (⟨d, arguments, c⟩ : Invocation α).rawText j (delay a) =
      if d.Defers j then pure a.source else evaluate a.nodes c := by
  obtain ⟨nodes, source, span⟩ := a
  unfold Invocation.rawText
  cases hp : d.parameterAt? j with
  | none =>
    have hdefers : ¬ d.Defers j := by
      rintro ⟨p, htakes, -⟩
      rw [(Definition.parameterAt?_eq_some_iff_takes hs).2 htakes] at hp
      cases hp
    rw [if_neg hdefers]
    rfl
  | some p =>
    have htakes := (Definition.parameterAt?_eq_some_iff_takes hs).1 hp
    have hdefers : d.Defers j ↔ p.kind = .script := by
      constructor
      · rintro ⟨q, hq, hk⟩
        rwa [htakes.unique hs hq]
      · exact fun hk => ⟨p, htakes, hk⟩
    simp only [hdefers]
    rfl

theorem rawTexts_delayAll (hs : Sound d.parameters) (arguments : List (Delayed α))
    (as : List (Argument Location)) (index : Nat) :
    (⟨d, arguments, c⟩ : Invocation α).rawTexts index (delayAll as) =
      (as.zipIdx index).mapM fun (a, j) =>
        if d.Defers j then pure a.source else evaluate a.nodes c := by
  induction as generalizing index with
  | nil => rfl
  | cons a as ih =>
    rw [delayAll, Invocation.rawTexts, rawText_delay hs, ih, List.zipIdx_cons, List.mapM_cons]

/-- All arguments but scripts are evaluated once each, from left to right. -/
theorem validate_eq_mapM (hs : Sound d.parameters) (as : List (Argument Location)) :
    (⟨d, delayAll as, c⟩ : Invocation α).validate = (do
      let raw ← as.zipIdx.mapM fun (a, j) =>
        if d.Defers j then pure a.source else evaluate a.nodes c
      Eval.ofExcept (d.validate raw)) := by
  rw [Invocation.validate, rawTexts_delayAll hs]

/-! ## Two calls -/

/-- Steps that are taken one after the other can be compared one by one. -/
theorem mapM_zipIdx_congr {σ τ : Type} {m : Type → Type} [Monad m] [LawfulMonad m]
    {xs ys : List σ} {f : σ × Nat → m τ} (hlen : xs.length = ys.length)
    (h : ∀ (j : Nat) x y, xs[j]? = some x → ys[j]? = some y → f (x, j) = f (y, j)) :
    xs.zipIdx.mapM f = ys.zipIdx.mapM f := by
  have hsteps : xs.zipIdx.map f = ys.zipIdx.map f := by
    refine List.ext_getElem (by simp [hlen]) fun j hx hy => ?_
    have hxj : j < xs.length := by simpa using hx
    have hyj : j < ys.length := by simpa using hy
    simpa using h j xs[j] ys[j] (List.getElem?_eq_getElem hxj) (List.getElem?_eq_getElem hyj)
  have hmapM (zs : List σ) : zs.zipIdx.mapM f = (zs.zipIdx.map f).mapM id := by
    rw [List.mapM_map]
    rfl
  rw [hmapM, hsteps, ← hmapM]

/-- Arguments of two calls that differ in nothing but the nodes of scripts and the texts of all
others. -/
structure SameEvaluated (d : Definition α) (as bs : List (Argument Location)) : Prop where
  length : as.length = bs.length
  argument : ∀ (j : Nat) a b, as[j]? = some a → bs[j]? = some b →
    if d.Defers j then a.source = b.source else a.nodes = b.nodes

/-- They are the same to the command. -/
theorem SameEvaluated.validate {as bs : List (Argument Location)} (hs : Sound d.parameters)
    (h : SameEvaluated d as bs) (c : Context α) :
    (⟨d, delayAll as, c⟩ : Invocation α).validate =
      (⟨d, delayAll bs, c⟩ : Invocation α).validate := by
  rw [validate_eq_mapM hs, validate_eq_mapM hs, mapM_zipIdx_congr h.length]
  intro j a b ha hb
  have hsame := h.argument j a b ha hb
  by_cases hd : d.Defers j
  · rw [if_pos hd] at hsame
    simp only [if_pos hd, hsame]
  · rw [if_neg hd] at hsame
    simp only [if_neg hd, hsame]

/-- They are the same to every command that gets its arguments, so that the call is. -/
theorem SameEvaluated.run {as bs : List (Argument Location)} (hs : Sound d.parameters)
    (h : SameEvaluated d as bs) (c : Context α) {handler : Handler α}
    (hh : handler.resolvesArguments = true) :
    handler.run ⟨d, delayAll as, c⟩ = handler.run ⟨d, delayAll bs, c⟩ := by
  cases handler with
  | deferred run => cases hh
  | resolved run | canvas run => rw [Handler.run, Handler.run, h.validate hs c]

end Evaluation

/-! ## All of it -/

/-- What becomes of the arguments of the calls of a command. -/
structure Deferring (d : Definition α) : Prop where
  /-- The parameter in the place of an argument is the one that converts it. -/
  place : ∀ p j, d.parameterAt? j = some p ↔ d.Takes p j
  /-- What it makes of the argument is found under its name, by itself or in a list. -/
  converted : ∀ raw a, d.validate raw = .ok a → ∀ p j r, d.Takes p j → raw[j]? = some r →
    Text.allBlank r = false → ∃ v, p.convert d.name (some r) = .ok v ∧
      (a.get? p.name = some v ∨ ∃ items, a.get? p.name = some (.list items) ∧ v ∈ items)
  /-- Nothing else is seen of the argument. -/
  unseen : ∀ p before r r' after, d.Takes p before.length → Text.allBlank r = Text.allBlank r' →
    p.convert d.name (some r) = p.convert d.name (some r') →
    d.validate (before ++ r :: after) = d.validate (before ++ r' :: after)
  /-- What no parameter takes may only be blank. -/
  surplus : ∀ raw a, d.validate raw = .ok a → ∀ j r, (∀ p, ¬ d.Takes p j) → raw[j]? = some r →
    Text.allBlank r = true
  /-- All arguments but scripts are evaluated once each, from left to right. -/
  evaluated [Behaviour α] : ∀ (as : List (Argument Location)) (c : Context α),
    (⟨d, delayAll as, c⟩ : Invocation α).validate = do
      let raw ← as.zipIdx.mapM fun (a, j) =>
        if d.Defers j then pure a.source else evaluate a.nodes c
      Eval.ofExcept (d.validate raw)
  /-- Scripts are not: neither the arguments nor what is done in the world depend on the nodes. -/
  deferred [Behaviour α] : ∀ as bs (c : Context α), SameEvaluated d as bs →
    (⟨d, delayAll as, c⟩ : Invocation α).validate = (⟨d, delayAll bs, c⟩ : Invocation α).validate
  /-- Nor does anything that a command does with its arguments. -/
  carried [Behaviour α] : ∀ as bs (c : Context α), SameEvaluated d as bs →
    ∀ handler : Handler α, handler.resolvesArguments = true →
      handler.run ⟨d, delayAll as, c⟩ = handler.run ⟨d, delayAll bs, c⟩
  /-- By the name of a parameter, a command finds the argument in its place. -/
  named [Behaviour α] : ∀ (i : Nat) p, d.parameters[i]? = some p → ∀ as (c : Context α),
    (⟨d, delayAll as, c⟩ : Invocation α).argument? p.name = as[i]?.map delay

/-- **Scripts are put off, and nothing else is.** Of the arguments of every call of a command that
passes its check, those that are converted as scripts are handed on as they stand, and all others
are evaluated once, whether a parameter takes them or not. -/
theorem deferring_of_check (hc : d.check = .ok ()) : Deferring d := by
  have hs := Definition.sound_of_check hc
  refine ⟨fun p j => Definition.parameterAt?_eq_some_iff_takes hs,
    fun raw a ha p j r hp hr hblank => Definition.exists_value_of_takes hs ha hp hr hblank,
    fun p before r r' after hp hblank hconvert => Definition.validate_replace hs hp hblank hconvert,
    fun raw a ha j r hnone hr => ?_, fun as c => validate_eq_mapM hs as,
    fun as bs c h => h.validate hs c, fun as bs c h handler hh => h.run hs c hh, fun i p hp as c => ?_⟩
  · have hsurplus := (Definition.validate_eq_ok_iff.1 ha).2.2
    refine Definition.surplus?_eq_none_iff_parameterAt?.1 hsurplus j r hr ?_
    rw [Option.eq_none_iff_forall_ne_some]
    exact fun p hp => hnone p ((Definition.parameterAt?_eq_some_iff_takes hs).1 hp)
  · rw [argument?_name hs _ hp, delayAll_eq_map, List.getElem?_map]

/-- A definition with scripts among its parameters, and with a list of scripts. -/
def repeated : Definition Unit where
  name := "$repeat"
  action := ()
  parameters := [
    { name := "Count", kind := .integer, default? := some "2" },
    { name := "First", kind := .script, verbatim := true },
    { name := "Label", kind := .string },
    { name := "Codes", kind := .script, required := true, variadic := true }]

theorem repeated_deferring :
    repeated.check = .ok () ∧ Deferring repeated ∧
      (List.range 6).filter (repeated.Defers ·) = [1, 3, 4, 5] := by
  have hc : repeated.check = .ok () := by rfl
  exact ⟨hc, deferring_of_check hc, by decide⟩

end CanvasScript.Run
