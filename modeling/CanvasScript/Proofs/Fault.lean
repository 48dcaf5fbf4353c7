import CanvasScript.Fault

/-!
# Which faults a step can end with

* `FaultsAre`: every fault that a step can end with is of a certain kind.
* `Fault.ArgumentOf`: the faults of the arguments of one command.
* `Fault.OfArgument`, `Fault.OfPicture`, `Fault.OfCall`: the faults of arguments, those of pictures
  and of the files that they are kept in, and all those that the calls of a script can end with.

Results:
* `of_bind_ok`, `mapM_eq_ok_iff`: the parts of a step that succeeds.
* `bind_eq_error_iff`: where a step fails.
* `Stateful.bind_cases`: the same for steps that change a state, however they end.
* `FaultsAre.bind`, `FaultsAre.mapM`: a step made of others ends with the faults of these.
* `Fault.OfCall.inCommand`: a fault stays of its kind when it is attributed to a command.
* `Fault.ArgumentOf.of_inCommand`: a fault of an argument becomes one of the command that it is
  attributed to.
-/

namespace CanvasScript

/-! ## Steps that succeed -/

/-- A step that succeeds consists of steps that do. -/
theorem of_bind_ok {ε β γ : Type} {x : Except ε β} {f : β → Except ε γ} {c : γ}
    (h : x >>= f = .ok c) : ∃ b, x = .ok b ∧ f b = .ok c := by
  cases x with
  | error e => cases h
  | ok b => exact ⟨b, rfl, h⟩

theorem bind_eq_ok_iff {ε β γ : Type} {x : Except ε β} {f : β → Except ε γ} {c : γ} :
    x >>= f = .ok c ↔ ∃ b, x = .ok b ∧ f b = .ok c := by
  constructor
  · exact of_bind_ok
  · rintro ⟨b, rfl, h⟩
    exact h

/-- A step made of two fails where one of them does. -/
theorem bind_eq_error_iff {ε β γ : Type} {x : Except ε β} {f : β → Except ε γ} {e : ε} :
    x >>= f = .error e ↔ x = .error e ∨ ∃ b, x = .ok b ∧ f b = .error e := by
  cases x with
  | error e' => simp [bind, Except.bind]
  | ok b => simp [bind, Except.bind]

theorem toOption_eq_some_iff {ε β : Type} {x : Except ε β} {b : β} :
    x.toOption = some b ↔ x = .ok b := by
  cases x <;> simp [Except.toOption]

theorem eq_ok_of_toOption {ε β : Type} {x : Except ε β} {b : β} (h : x.toOption = some b) :
    x = .ok b :=
  toOption_eq_some_iff.1 h

/-- A step done for every element of a list succeeds if it does so for each of them. -/
theorem mapM_eq_ok_iff {ε β γ : Type} {f : β → Except ε γ} {l : List β} {cs : List γ} :
    l.mapM f = .ok cs ↔ l.map (fun b => (f b).toOption) = cs.map some := by
  induction l generalizing cs with
  | nil => cases cs <;> simp [pure, Except.pure]
  | cons b l ih =>
    cases cs with
    | nil => simp [List.mapM_cons, bind_eq_ok_iff, pure, Except.pure]
    | cons c cs =>
      simp [List.mapM_cons, bind_eq_ok_iff, pure, Except.pure, ih, toOption_eq_some_iff]

/-! ## Steps that change a state -/

namespace Stateful

variable {ε σ β γ : Type} {e : ExceptT ε (StateM σ) β} {f : β → ExceptT ε (StateM σ) γ} {s s₁ : σ}

/-- A step made of two goes on with the second one once the first one has succeeded. -/
theorem run_bind_of_ok {b : β} (h : e.run s = (.ok b, s₁)) : (e >>= f).run s = (f b).run s₁ := by
  unfold ExceptT.run at h ⊢
  simp only [bind, ExceptT.bind, ExceptT.mk, StateT.bind]
  rw [h]
  rfl

/-- Otherwise it ends where the first one does. -/
theorem run_bind_of_error {x : ε} (h : e.run s = (.error x, s₁)) :
    (e >>= f).run s = (.error x, s₁) := by
  unfold ExceptT.run at h ⊢
  simp only [bind, ExceptT.bind, ExceptT.mk, StateT.bind]
  rw [h]
  rfl

/-- A step made of two ends with the second one, or with a fault of the first one. -/
theorem bind_cases {r : Except ε γ} {s' : σ} (h : (e >>= f).run s = (r, s')) :
    (∃ b s₁, e.run s = (.ok b, s₁) ∧ (f b).run s₁ = (r, s')) ∨
      ∃ x, e.run s = (.error x, s') ∧ r = .error x := by
  rcases he : e.run s with ⟨_ | b, s₁⟩
  · rw [run_bind_of_error he] at h
    cases h
    exact .inr ⟨_, rfl, rfl⟩
  · rw [run_bind_of_ok he] at h
    exact .inl ⟨b, s₁, rfl, h⟩

/-- A step that looks at the state goes on from the same one. -/
theorem run_get_bind (f : σ → ExceptT ε (StateM σ) β) (s : σ) : (get >>= f).run s = (f s).run s :=
  rfl

/-- A handler has nothing to do behind a step that ends without a fault. -/
theorem run_tryCatch_of_ok {g : ε → ExceptT ε (StateM σ) β} {b : β} (h : e.run s = (.ok b, s₁)) :
    (tryCatch e g).run s = (.ok b, s₁) := by
  unfold ExceptT.run at h ⊢
  simp only [tryCatch, tryCatchThe, MonadExceptOf.tryCatch, ExceptT.tryCatch, ExceptT.mk, bind,
    StateT.bind]
  rw [h]
  rfl

/-- Behind one that ends with a fault the handler goes on. -/
theorem run_tryCatch_of_error {g : ε → ExceptT ε (StateM σ) β} {x : ε}
    (h : e.run s = (.error x, s₁)) : (tryCatch e g).run s = (g x).run s₁ := by
  unfold ExceptT.run at h ⊢
  simp only [tryCatch, tryCatchThe, MonadExceptOf.tryCatch, ExceptT.tryCatch, ExceptT.mk, bind,
    StateT.bind]
  rw [h]

/-- A value or a fault, taken for a step, leaves the state alone. -/
theorem of_lift {x : Except ε β} {r : Except ε β} {s' : σ}
    (h : (liftM x : ExceptT ε (StateM σ) β).run s = (r, s')) : x = r ∧ s' = s := by
  cases h
  exact ⟨rfl, rfl⟩

end Stateful

/-! ## Steps that fail -/

variable {α β : Type} {P : Fault → Prop}

/-- Every fault that the step can end with has the property. -/
def FaultsAre (P : Fault → Prop) (x : Except Fault α) : Prop :=
  ∀ fault, x = .error fault → P fault

namespace FaultsAre

theorem ok (a : α) : FaultsAre P (.ok a) :=
  nofun

theorem error {fault : Fault} (h : P fault) : FaultsAre P (.error fault : Except Fault α) := by
  intro fault' hf
  cases hf
  exact h

theorem mono {Q : Fault → Prop} {x : Except Fault α} (hx : FaultsAre P x)
    (h : ∀ {fault}, P fault → Q fault) : FaultsAre Q x :=
  fun fault hf => h (hx fault hf)

theorem bind {x : Except Fault α} {f : α → Except Fault β} (hx : FaultsAre P x)
    (hf : ∀ a, x = .ok a → FaultsAre P (f a)) : FaultsAre P (x >>= f) := by
  cases x with
  | error fault => exact error (hx fault rfl)
  | ok a => exact hf a rfl

theorem ite {p : Prop} [Decidable p] {x y : Except Fault α} (hx : FaultsAre P x)
    (hy : FaultsAre P y) : FaultsAre P (if p then x else y) := by
  split
  · exact hx
  · exact hy

theorem mapM {f : α → Except Fault β} (hf : ∀ a, FaultsAre P (f a)) (l : List α) :
    FaultsAre P (l.mapM f) := by
  induction l with
  | nil => exact ok []
  | cons a l ih =>
    rw [List.mapM_cons]
    exact (hf a).bind fun b _ => ih.bind fun bs _ => ok (b :: bs)

end FaultsAre

deriving instance DecidableEq for ParseFault, DefinitionFault, RenderFault, ConfigFault, Fault

namespace Fault

/-- An argument is not what it should be. -/
inductive OfArgument : Fault → Prop
  | argument (command expected received : String) : OfArgument (.argument command expected received)

/-- An argument of this command is not what it should be. -/
inductive ArgumentOf (command : String) : Fault → Prop
  | argument (expected received : String) :
      ArgumentOf command (.argument command expected received)

theorem ArgumentOf.ofArgument {command : String} {fault : Fault} (h : fault.ArgumentOf command) :
    fault.OfArgument := by
  cases h with
  | argument expected received => exact .argument command expected received

/-- A fault about an argument that has been attributed to a command is one of this command. -/
theorem ArgumentOf.of_inCommand {fault : Fault} {name command expected received : String}
    (h : fault.inCommand name = .argument command expected received) : command = name := by
  cases fault with
  | argument => exact (Fault.argument.inj h).1.symm
  | system | file | parse | unknownCommand | scope | definition | render | config => cases h

/-- A picture cannot be made, or the directory for it cannot. -/
inductive OfPicture : Fault → Prop
  | render (fault : RenderFault) : OfPicture (.render fault)
  | file (path reason : String) : OfPicture (.file path reason)

/-- A call ends with a fault of this kind. -/
inductive OfCall : Fault → Prop
  | argument {fault : Fault} (h : fault.OfArgument) : OfCall fault
  | picture {fault : Fault} (h : fault.OfPicture) : OfCall fault
  | unknownCommand (name : String) (position : Script.Location) (parent? : Option String) :
      OfCall (.unknownCommand name position parent?)

/-- A fault stays of its kind, whatever command it is attributed to. -/
theorem OfCall.inCommand {fault : Fault} (h : fault.OfCall) (name : String) :
    (fault.inCommand name).OfCall := by
  cases h with
  | argument h =>
    cases h
    exact .argument (.argument name _ _)
  | picture h =>
    cases h with
    | render fault => exact .picture (.render fault)
    | file path reason => exact .picture (.file path reason)
  | unknownCommand name' position parent? => exact .unknownCommand name' position parent?

end Fault

end CanvasScript
