import CanvasScript.Text.Quoted

/-!
# Generated identifiers

* `IdSupply`: the times and the random digits that identifiers are made of, and how many
  identifiers have been made.
* `IdSupply.next`: an identifier, which is a time in hexadecimal, a hyphen and random digits, and
  the supply behind it.
-/

namespace CanvasScript.Canvas

/-- Where identifiers come from: the `n`-th one is made at `stamp n` milliseconds of the clock,
with `digit n 0`, `digit n 1`, … as its random digits. -/
structure IdSupply where
  stamp : Nat → Nat
  digit : Nat → Nat → Fin 16
  /-- The number of identifiers made so far. -/
  drawn : Nat := 0

namespace IdSupply

/-- The random part of an identifier. -/
def digits (s : IdSupply) (length : Nat) : List Char :=
  (List.range length).map fun i => Nat.digitChar (s.digit s.drawn i).val

/-- The next identifier, with a random part of the given length (`make_id`). -/
def next (s : IdSupply) (length : Nat) : String × IdSupply :=
  (String.ofList (Text.hexDigits (s.stamp s.drawn) ++ '-' :: s.digits length),
    { s with drawn := s.drawn + 1 })

end IdSupply

/-- The length of the random part of a canvas identifier. -/
def canvasIdLength : Nat := 8

/-- The length of the random part of a layer identifier. -/
def layerIdLength : Nat := 5

end CanvasScript.Canvas
