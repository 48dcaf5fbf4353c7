import CanvasScript.Script.Location

/-!
# The tree of a script

A script is text with calls in it: `$name`, `$name[]` or `$name[one;two]`.

* `Node`: a piece of literal text, a name without brackets, or a call with brackets.
* `Argument`: what stands between two separators of a call, as nodes and as raw text.
* `Node.map`, `Node.mapAll`, `Argument.mapAll`: the same tree with other positions. The tree
  without positions is the image under the map to `Unit`.
* `Node.decEq`: it can be decided whether two trees are the same.
-/

namespace CanvasScript.Script

mutual

/-- A piece of a script, with positions of type `π`. -/
inductive Node (π : Type) where
  /-- Literal text, with its escapes removed. -/
  | text (content : String)
  /-- A name without brackets; `name` begins with `$`. -/
  | mention (name : String) (span : Span π)
  /-- A name with brackets. -/
  | call (name : String) (arguments : List (Argument π)) (span : Span π)

/-- One argument of a call. -/
structure Argument (π : Type) where
  nodes : List (Node π)
  /-- The argument as it stands in the script. -/
  source : String
  span : Span π

end

variable {π ρ : Type}

/-- The two ends of a span under a map of positions. -/
def Span.map (f : π → ρ) (s : Span π) : Span ρ :=
  ⟨f s.start, f s.stop⟩

mutual

/-- A node with its positions mapped. -/
def Node.map (f : π → ρ) : Node π → Node ρ
  | .text content => .text content
  | .mention name span => .mention name (span.map f)
  | .call name arguments span => .call name (Argument.mapAll f arguments) (span.map f)

/-- An argument with its positions mapped. -/
def Argument.map (f : π → ρ) : Argument π → Argument ρ
  | ⟨nodes, source, span⟩ => ⟨Node.mapAll f nodes, source, span.map f⟩

/-- Arguments with their positions mapped. -/
def Argument.mapAll (f : π → ρ) : List (Argument π) → List (Argument ρ)
  | [] => []
  | a :: as => a.map f :: Argument.mapAll f as

/-- Nodes with their positions mapped. -/
def Node.mapAll (f : π → ρ) : List (Node π) → List (Node ρ)
  | [] => []
  | n :: ns => n.map f :: Node.mapAll f ns

end

/-- Nodes without their positions. -/
def Node.bare (nodes : List (Node π)) : List (Node Unit) :=
  Node.mapAll (fun _ => ()) nodes

section DecidableEq

variable [DecidableEq π]

mutual

/-- Whether two nodes are the same. -/
def Node.decEq : (m n : Node π) → Decidable (m = n)
  | .text s, .text t => decidable_of_iff (s = t) (Node.text.injEq ..).to_iff.symm
  | .mention s p, .mention t q =>
    decidable_of_iff (s = t ∧ p = q) (Node.mention.injEq ..).to_iff.symm
  | .call s as p, .call t bs q =>
    have := Argument.decEqAll as bs
    decidable_of_iff (s = t ∧ as = bs ∧ p = q) (Node.call.injEq ..).to_iff.symm
  | .text .., .mention .. | .text .., .call .. | .mention .., .text .. | .mention .., .call ..
  | .call .., .text .. | .call .., .mention .. => isFalse nofun

/-- Whether two arguments are the same. -/
def Argument.decEq : (a b : Argument π) → Decidable (a = b)
  | ⟨ms, s, p⟩, ⟨ns, t, q⟩ =>
    have := Node.decEqAll ms ns
    decidable_of_iff (ms = ns ∧ s = t ∧ p = q) (Argument.mk.injEq ..).to_iff.symm

/-- Whether arguments are the same, one by one. -/
def Argument.decEqAll : (as bs : List (Argument π)) → Decidable (as = bs)
  | [], [] => isTrue rfl
  | a :: as, b :: bs =>
    have := Argument.decEq a b
    have := Argument.decEqAll as bs
    decidable_of_iff (a = b ∧ as = bs) (List.cons.injEq ..).to_iff.symm
  | [], _ :: _ | _ :: _, [] => isFalse nofun

/-- Whether nodes are the same, one by one. -/
def Node.decEqAll : (ms ns : List (Node π)) → Decidable (ms = ns)
  | [], [] => isTrue rfl
  | m :: ms, n :: ns =>
    have := Node.decEq m n
    have := Node.decEqAll ms ns
    decidable_of_iff (m = n ∧ ms = ns) (List.cons.injEq ..).to_iff.symm
  | [], _ :: _ | _ :: _, [] => isFalse nofun

end

instance : DecidableEq (Node π) :=
  Node.decEq

end DecidableEq

end CanvasScript.Script
