import CanvasScript.Proofs.Command.Registry
import CanvasScript.Proofs.Fault

/-!
# Validated arguments

* `Parameter.offers`, `Definition.Offers`: a parameter takes nothing but some words, and always has
  one of them.

Results:
* `Definition.faultsAre_validate`: arguments that are refused are at fault themselves.
* `Definition.exists_bind_of_mem`: the value under a name is that of a parameter with this name.
* `Definition.string_of_offers`: a parameter that offers words has one of them for its value.
-/

namespace CanvasScript.Command

variable {α : Type}

/-! ## Faults -/

theorem Parameter.faultsAre_convert (p : Parameter) (command : String) (raw? : Option String) :
    FaultsAre (Fault.ArgumentOf command) (p.convert command raw?) := by
  have htext : ∀ text,
      FaultsAre (Fault.ArgumentOf command) (Parameter.accept.convertText p command text) := by
    intro text
    unfold Parameter.accept.convertText
    split
    · exact .ok _
    · exact .error (.argument ..)
  unfold Parameter.convert
  split
  · unfold Parameter.accept
    split
    · split
      · exact htext _
      · exact .error (.argument ..)
    · exact htext _
  · split
    · exact .error (.argument ..)
    · exact .ok _

namespace Definition

variable {d : Definition α}

theorem faultsAre_bind (d : Definition α) (p : Parameter) (raw : List String) :
    FaultsAre (Fault.ArgumentOf d.name) (d.bind p raw) := by
  unfold bind
  split
  · refine .bind (.mapM (fun r => p.faultsAre_convert d.name (some r)) _) fun items _ => ?_
    split
    · exact .error (.argument ..)
    · exact .ok _
  · exact p.faultsAre_convert d.name _

theorem faultsAre_bindAll (d : Definition α) (ps : List Parameter) (raw : List String) :
    FaultsAre (Fault.ArgumentOf d.name) (d.bindAll ps raw) := by
  induction ps generalizing raw with
  | nil => exact .ok _
  | cons p ps ih =>
    exact (d.faultsAre_bind p raw).bind fun value _ => (ih raw.tail).bind fun values _ => .ok _

/-- Arguments that are refused are at fault themselves, and they are those of the command. -/
theorem faultsAre_validate (d : Definition α) (raw : List String) :
    FaultsAre (Fault.ArgumentOf d.name) (d.validate raw) := by
  refine (d.faultsAre_bindAll d.parameters raw).bind fun values _ => ?_
  split
  · exact .error (.argument ..)
  · exact .ok _

/-! ## Values -/

theorem command_of_validate {raw : List String} {a : Arguments} (h : d.validate raw = .ok a) :
    a.command = d.name := by
  obtain ⟨values, -, h⟩ := of_bind_ok h
  split at h
  · cases h
  · cases h
    rfl

theorem bindAll_of_validate {raw : List String} {a : Arguments} (h : d.validate raw = .ok a) :
    d.bindAll d.parameters raw = .ok a.values := by
  obtain ⟨values, hb, h⟩ := of_bind_ok h
  split at h
  · cases h
  · cases h
    exact hb

/-- The value under the name of a parameter is that of a parameter with this name. -/
theorem exists_bind_of_mem {ps : List Parameter} {raw : List String}
    {values : List (String × Value)} (h : d.bindAll ps raw = .ok values) {p : Parameter}
    (hp : p ∈ ps) :
    ∃ q ∈ ps, q.name = p.name ∧
      ∃ raw v, d.bind q raw = .ok v ∧ values.lookup p.name = some v := by
  induction ps generalizing raw values with
  | nil => cases hp
  | cons q ps ih =>
    obtain ⟨value, hb, h⟩ := of_bind_ok h
    obtain ⟨others, hbs, h⟩ := of_bind_ok h
    cases h
    by_cases hq : q.name = p.name
    · refine ⟨q, List.mem_cons_self, hq, raw, value, hb, ?_⟩
      rw [List.lookup_cons, hq, beq_self_eq_true]
    · rcases List.mem_cons.1 hp with rfl | hp
      · exact absurd rfl hq
      · obtain ⟨q', hq', hname, raw', v, hb', hv⟩ := ih hbs hp
        refine ⟨q', List.mem_cons_of_mem _ hq', hname, raw', v, hb', ?_⟩
        rw [List.lookup_cons, beq_false_of_ne (Ne.symm hq)]
        exact hv

end Definition

/-! ## Choices -/

/-- The parameter takes these words and nothing else, and it cannot be without a value. -/
def Parameter.offers (p : Parameter) (words : List String) : Bool :=
  p.kind = .string && (p.required || p.default?.isSome) && !p.variadic && p.allowed? = some words

namespace Definition

variable {d : Definition α}

/-- There is a parameter with a name, and it offers some words. -/
def Offers (d : Definition α) (name : String) (words : List String) : Prop :=
  (∃ p ∈ d.parameters, p.name = name) ∧ ∀ p ∈ d.parameters, p.name = name → p.offers words = true

instance (d : Definition α) (name : String) (words : List String) :
    Decidable (d.Offers name words) :=
  inferInstanceAs (Decidable (_ ∧ _))

/-- The value of a parameter that offers words is one of them. -/
theorem of_bind_offers {p : Parameter} {words raw : List String} {v : Value}
    (hp : p.offers words = true) (h : d.bind p raw = .ok v) : ∃ s ∈ words, v = .string s := by
  simp only [Parameter.offers, Bool.and_eq_true, Bool.or_eq_true, Bool.not_eq_true',
    decide_eq_true_eq] at hp
  obtain ⟨⟨⟨hkind, hneeded⟩, hsingle⟩, hallowed⟩ := hp
  unfold bind at h
  rw [if_neg (by rw [hsingle]; exact Bool.false_ne_true)] at h
  unfold Parameter.convert at h
  split at h
  · rename_i text _
    unfold Parameter.accept at h
    rw [hallowed] at h
    dsimp only at h
    split at h
    · rename_i hmem
      unfold Parameter.accept.convertText at h
      rw [hkind] at h
      cases h
      exact ⟨text, List.contains_iff_mem.1 hmem, rfl⟩
    · cases h
  · rename_i hgiven
    split at h
    · cases h
    · rename_i hoptional
      -- an argument that may be left out has a default, which stands in for it
      exfalso
      rcases hneeded with hrequired | hdefault
      · exact hoptional hrequired
      · obtain ⟨text, htext⟩ := Option.isSome_iff_exists.1 hdefault
        unfold Parameter.given? at hgiven
        rw [htext] at hgiven
        split at hgiven
        · split at hgiven <;> cases hgiven
        · cases hgiven

/-- Validated arguments have one of the words that are offered. -/
theorem string_of_offers {name : String} {words raw : List String} {a : Arguments}
    (ho : d.Offers name words) (h : d.validate raw = .ok a) :
    ∃ s ∈ words, a.string name = .ok s := by
  obtain ⟨⟨p, hp, rfl⟩, hoffers⟩ := ho
  obtain ⟨q, hq, hname, raw', v, hb, hv⟩ := exists_bind_of_mem (bindAll_of_validate h) hp
  obtain ⟨s, hs, rfl⟩ := of_bind_offers (hoffers q hq hname) hb
  refine ⟨s, hs, ?_⟩
  unfold Arguments.string Arguments.string? Arguments.get?
  rw [hv]
  rfl

end Definition

end CanvasScript.Command
