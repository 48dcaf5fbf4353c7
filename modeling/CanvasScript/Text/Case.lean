import CanvasScript.Text.CaseTable

/-!
# Letter case

* `foldAscii`: ASCII letters to lower case, all else as it stands; `sameFold` compares two texts
  up to it.
* `lower`, `upper`: the full Unicode mappings, one character possibly giving several.
* The only mapping that looks at its surroundings is that of `Σ`: `endsWord` decides between the
  final and the medial small letter.

On ASCII text `lower` and `foldAscii` are the same function.
-/

namespace CanvasScript.Text

/-! ## ASCII letters -/

/-- An ASCII capital to its small letter, any other character to itself. -/
def foldChar (c : Char) : Char :=
  if 'A' ≤ c ∧ c ≤ 'Z' then Char.ofNat (c.toNat + 32) else c

/-- A text with its ASCII capitals made small. -/
def foldAscii (s : String) : String :=
  String.ofList (s.toList.map foldChar)

/-- Two texts are equal up to the case of ASCII letters. -/
def sameFold (s t : String) : Bool :=
  foldAscii s == foldAscii t

/-! ## The Unicode mappings -/

/-- The code point lies in one of the ranges. -/
def inRanges (ranges : Array (Nat × Nat)) (n : Nat) : Bool :=
  ranges.any fun r => r.1 ≤ n && n ≤ r.2

/-- The code point that `n` is mapped to by the first run holding it, `n` itself if none does. -/
def shifted (runs : Array CaseRun) (n : Nat) : Nat :=
  match runs.find? fun r => r.first ≤ n && n ≤ r.last && (n - r.first) % r.step == 0 with
  | some r => (n + r.shift).toNat
  | none => n

/-- The mapping given by a table of special cases and a table of runs. -/
def mapped (special : List (Nat × List Nat)) (runs : Array CaseRun) (c : Char) : List Char :=
  match special.lookup c.toNat with
  | some ns => ns.map Char.ofNat
  | none => [Char.ofNat (shifted runs c.toNat)]

/-- The lower case of a character by itself. -/
def lowerChar (c : Char) : List Char :=
  if c.toNat < 128 then [foldChar c] else mapped lowerSpecial lowerRuns c

/-- The upper case of a character. -/
def upperChar (c : Char) : List Char :=
  if c.toNat < 128 then
    [if 'a' ≤ c ∧ c ≤ 'z' then Char.ofNat (c.toNat - 32) else c]
  else mapped upperSpecial upperRuns c

/-! ## The final sigma -/

/-- The property `Cased`. -/
def isCased (c : Char) : Bool :=
  if c.toNat < 128 then c.isAlpha else inRanges casedRanges c.toNat

/-- The property `Case_Ignorable`. -/
def isCaseIgnorable (c : Char) : Bool :=
  if c.toNat < 128 then
    c == '\'' || c == '.' || c == ':' || c == '^' || c.toNat == 0x60
  else inRanges caseIgnorableRanges c.toNat

/-- The first character that is not ignorable exists and is cased. -/
def casedAhead (cs : List Char) : Bool :=
  match cs.dropWhile isCaseIgnorable with
  | [] => false
  | c :: _ => isCased c

/-- A sigma between `before` (nearest first) and `after` stands at the end of a word. -/
def endsWord (before after : List Char) : Bool :=
  casedAhead before && !casedAhead after

/-- Lower case of a text whose earlier characters, nearest first, are `before`. -/
def lowerFrom (before : List Char) : List Char → List Char
  | [] => []
  | c :: cs =>
    (if c = 'Σ' then [if endsWord before cs then 'ς' else 'σ'] else lowerChar c) ++
      lowerFrom (c :: before) cs

/-- The lower case of a text. -/
def lower (s : String) : String :=
  String.ofList (lowerFrom [] s.toList)

/-- The upper case of a text. -/
def upper (s : String) : String :=
  String.ofList (s.toList.flatMap upperChar)

end CanvasScript.Text
