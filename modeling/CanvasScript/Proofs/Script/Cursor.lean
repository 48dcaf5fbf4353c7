import CanvasScript.Proofs.Script.Locations
import CanvasScript.Proofs.Script.Parts

/-!
# The cursor

Offsets become locations one after the other: each is counted on from the location that was found
last. Here the cursor is followed through a tree.

* `Node.positions`, `Node.positionsAll`: the positions of a tree, in the order in which the cursor
  comes to them.
* `Location.trail`: the locations that a cursor finds. It ends where `Location.follow` says.

Results:
* `Node.trail_locateAll`: the locations of a tree are those that the cursor finds for its offsets.
* `Location.trail_of_boundaries`: at boundaries it finds what is counted from the start.
-/

namespace CanvasScript.Script

variable {π ρ : Type} {source : String} {l : Location}

/-! ## Positions of a tree -/

mutual

/-- The positions of a node in order: its start, those of its arguments, and its end. -/
def Node.positions : Node π → List π
  | .text _ => []
  | .mention _ span => [span.start, span.stop]
  | .call _ arguments span => span.start :: Argument.positionsAll arguments ++ [span.stop]

/-- The positions of an argument in order: its start, those of its nodes, and its end. -/
def Argument.positions : Argument π → List π
  | ⟨nodes, _, span⟩ => span.start :: Node.positionsAll nodes ++ [span.stop]

/-- The positions of arguments in order. -/
def Argument.positionsAll : List (Argument π) → List π
  | [] => []
  | a :: as => a.positions ++ Argument.positionsAll as

/-- The positions of nodes in order. -/
def Node.positionsAll : List (Node π) → List π
  | [] => []
  | n :: ns => n.positions ++ Node.positionsAll ns

end

theorem Argument.positions_eq (a : Argument π) :
    a.positions = a.span.start :: Node.positionsAll a.nodes ++ [a.span.stop] := by
  cases a
  rfl

theorem Node.positionsAll_append (ns ms : List (Node π)) :
    Node.positionsAll (ns ++ ms) = Node.positionsAll ns ++ Node.positionsAll ms := by
  induction ns with
  | nil => rfl
  | cons n ns ih => rw [List.cons_append, positionsAll, positionsAll, ih, List.append_assoc]

theorem Argument.positionsAll_append (as bs : List (Argument π)) :
    Argument.positionsAll (as ++ bs) = Argument.positionsAll as ++ Argument.positionsAll bs := by
  induction as with
  | nil => rfl
  | cons a as ih => rw [List.cons_append, positionsAll, positionsAll, ih, List.append_assoc]

/-! ## The cursor in a text -/

namespace Location

/-- The locations that a cursor finds for offsets, one after the other. -/
def trail (source : String) (l : Location) : List Nat → List Location
  | [] => []
  | o :: os => l.advance source o :: trail source (l.advance source o) os

theorem trail_append (os qs : List Nat) :
    trail source l (os ++ qs) = trail source l os ++ trail source (follow source l os) qs := by
  induction os generalizing l with
  | nil => rfl
  | cons o os ih =>
    rw [List.cons_append, trail, ih, trail, List.cons_append]
    rfl

theorem follow_append (os qs : List Nat) :
    follow source l (os ++ qs) = follow source (follow source l os) qs :=
  List.foldl_append

/-- At boundaries the cursor finds what is counted from the start. -/
theorem trail_of_boundaries {a : Nat} (ha : Text.Boundary source a) {os : List Nat}
    (hos : ∀ o ∈ os, Text.Boundary source o) :
    trail source (ofOffset source a) os = os.map (ofOffset source) := by
  induction os generalizing a with
  | nil => rfl
  | cons o os ih =>
    obtain ⟨ho, hos⟩ := List.forall_mem_cons.1 hos
    rw [trail, advance_of_boundary ha ho, ih ho hos, List.map_cons]

theorem follow_of_boundaries {a : Nat} (ha : Text.Boundary source a) {os : List Nat}
    (hos : ∀ o ∈ os, Text.Boundary source o) :
    follow source (ofOffset source a) os = ofOffset source (os.getLastD a) := by
  induction os generalizing a with
  | nil => rfl
  | cons o os ih =>
    obtain ⟨ho, hos⟩ := List.forall_mem_cons.1 hos
    rw [follow, List.foldl_cons, advance_of_boundary ha ho, List.getLastD_cons]
    exact ih ho hos

end Location

/-! ## The cursor in a tree -/

open Location (trail follow trail_append follow_append)

mutual

theorem Node.trail_locate (source : String) : ∀ (n : Node Nat) (l : Location),
    (n.locate source l).1.positions = trail source l n.positions ∧
      (n.locate source l).2 = follow source l n.positions
  | .text _, _ => ⟨rfl, rfl⟩
  | .mention _ _, _ => ⟨rfl, rfl⟩
  | .call name arguments span, l => by
    obtain ⟨hpositions, hcursor⟩ :=
      Argument.trail_locateAll source arguments (l.advance source span.start)
    simp only [Node.locate, Node.positions, List.cons_append, trail, trail_append, hpositions,
      hcursor, follow, List.foldl_cons, List.foldl_append, List.foldl_nil, and_self]

theorem Argument.trail_locate (source : String) : ∀ (a : Argument Nat) (l : Location),
    (a.locate source l).1.positions = trail source l a.positions ∧
      (a.locate source l).2 = follow source l a.positions
  | ⟨nodes, text, span⟩, l => by
    obtain ⟨hpositions, hcursor⟩ := Node.trail_locateAll source nodes (l.advance source span.start)
    simp only [Argument.locate, Argument.positions, List.cons_append, trail, trail_append,
      hpositions, hcursor, follow, List.foldl_cons, List.foldl_append, List.foldl_nil, and_self]

theorem Argument.trail_locateAll (source : String) : ∀ (as : List (Argument Nat)) (l : Location),
    Argument.positionsAll (Argument.locateAll source as l).1 =
        trail source l (Argument.positionsAll as) ∧
      (Argument.locateAll source as l).2 = follow source l (Argument.positionsAll as)
  | [], _ => ⟨rfl, rfl⟩
  | a :: as, l => by
    obtain ⟨hfirst, hcursor⟩ := Argument.trail_locate source a l
    obtain ⟨hrest, hend⟩ := Argument.trail_locateAll source as (a.locate source l).2
    rw [hcursor] at hrest hend
    simp only [Argument.locateAll, Argument.positionsAll, hfirst, hrest, hend, hcursor,
      trail_append, follow_append, and_self]

/-- The locations of a tree are those that the cursor finds for its offsets, in their order. -/
theorem Node.trail_locateAll (source : String) : ∀ (ns : List (Node Nat)) (l : Location),
    Node.positionsAll (Node.locateAll source ns l).1 = trail source l (Node.positionsAll ns) ∧
      (Node.locateAll source ns l).2 = follow source l (Node.positionsAll ns)
  | [], _ => ⟨rfl, rfl⟩
  | n :: ns, l => by
    obtain ⟨hfirst, hcursor⟩ := Node.trail_locate source n l
    obtain ⟨hrest, hend⟩ := Node.trail_locateAll source ns (n.locate source l).2
    rw [hcursor] at hrest hend
    simp only [Node.locateAll, Node.positionsAll, hfirst, hrest, hend, hcursor, trail_append,
      follow_append, and_self]

end

end CanvasScript.Script
