/-!
# Paths

A path is the text it is written as; what it names is found by walking its segments.

* `FilePath.join`: a path taken from a directory, unless it is absolute.
* `FilePath.segments`: the names between the slashes, `.` and `..` among them.
* `FilePath.fileName?`, `FilePath.extension?`: the last name, and what follows its last dot.
* `FilePath.parent?`, `FilePath.ancestors`: the path without its last name, as often as there is
  one.
* `FilePath.relativeTo?`: the rest of a path behind a directory.
-/

namespace CanvasScript.Storage

/-- The name of a file or directory, as it is written. -/
structure FilePath where
  text : String
deriving DecidableEq, Inhabited, Repr

namespace FilePath

/-! ## Segments -/

/-- The pieces between slashes, empty ones included. -/
def splitSlashes : List Char → List (List Char)
  | [] => [[]]
  | c :: cs =>
    match splitSlashes cs with
    | [] => [[c]]
    | piece :: pieces => if c = '/' then [] :: piece :: pieces else (c :: piece) :: pieces

/-- The path starts at the root. -/
def isAbsolute (p : FilePath) : Bool :=
  p.text.startsWith "/"

/-- The names between the slashes, in order. -/
def segments (p : FilePath) : List String :=
  ((splitSlashes p.text.toList).filter (!·.isEmpty)).map String.ofList

/-- The path ends with a slash. -/
def endsOpen (p : FilePath) : Bool :=
  p.text.toList.getLast? == some '/'

/-! ## Joining -/

/-- A path taken from the directory `base`; an absolute path stays as it is. -/
def join (base p : FilePath) : FilePath :=
  if p.isAbsolute || base.text.isEmpty then p
  else if base.endsOpen then ⟨base.text ++ p.text⟩
  else ⟨base.text ++ "/" ++ p.text⟩

/-- A name within the directory `base`. -/
def child (base : FilePath) (name : String) : FilePath :=
  base.join ⟨name⟩

/-! ## The two ends of a path

A path is read as a start, which is the root, a single dot or nothing, and names behind it. Dots
and empty names behind the start are passed over. -/

/-- The characters of the start of a path. -/
def startLength (cs : List Char) : Nat :=
  match cs with
  | '/' :: _ => 1
  | ['.'] => 1
  | '.' :: '/' :: _ => 1
  | _ => 0

/-- Characters, last first, without the empty names and dots they begin with; `n` bounds the
number of names. -/
def dropIdle : Nat → List Char → List Char
  | 0, cs => cs
  | n + 1, cs =>
    let name := cs.takeWhile (· != '/')
    if name.isEmpty || name = ['.'] then
      match cs.dropWhile (· != '/') with
      | [] => []
      | _ :: rest => dropIdle n rest
    else cs

/-- The names of a path as they are written, without idle ones at the end. -/
def trimEnd (names : List Char) : List Char :=
  (dropIdle (names.length + 1) names.reverse).reverse

/-- The names of a path as they are written, without idle ones at the start. -/
def trimStart (names : List Char) : List Char :=
  dropIdle (names.length + 1) names

/-- The path without its last name. The root and the empty path have no parent, and that of a
single dot is empty. -/
def parent? (p : FilePath) : Option FilePath :=
  let cs := p.text.toList
  let start := cs.take (startLength cs)
  let names := trimEnd (cs.drop (startLength cs))
  if names.isEmpty then
    if start = ['.'] then some ⟨""⟩ else none
  else
    let rest := (names.reverse.dropWhile (· != '/')).reverse
    some ⟨String.ofList (start ++ trimEnd rest)⟩

/-- The last name, if it is one: neither the root nor a dot nor two. -/
def fileName? (p : FilePath) : Option String :=
  let cs := p.text.toList
  let names := trimEnd (cs.drop (startLength cs))
  let name := (names.reverse.takeWhile (· != '/')).reverse
  if name.isEmpty || name = ['.', '.'] then none else some (String.ofList name)

/-- What follows the last dot of a name, unless that dot is its first character. -/
def extensionOf? (name : String) : Option String :=
  let cs := name.toList.reverse
  match cs.dropWhile (· != '.') with
  | [] | [_] => none
  | _ => some (String.ofList (cs.takeWhile (· != '.')).reverse)

/-- What follows the last dot of the last name. -/
def extension? (p : FilePath) : Option String :=
  p.fileName?.bind extensionOf?

/-- A path, its parent, the parent of that, and so on, at most `n` of them. -/
def ancestorsUpTo : Nat → FilePath → List FilePath
  | 0, _ => []
  | n + 1, p =>
    p :: match p.parent? with
      | some q => ancestorsUpTo n q
      | none => []

/-- A path, its parent, the parent of that, and so on. -/
def ancestors (p : FilePath) : List FilePath :=
  ancestorsUpTo (p.text.length + 2) p

/-! ## Paths within a directory -/

/-- The rest of a text behind names that follow each other in it. -/
def behind? : List String → List Char → Option (List Char)
  | [], cs => some cs
  | name :: names, cs =>
    let cs := trimStart cs
    if cs.takeWhile (· != '/') = name.toList then behind? names (cs.dropWhile (· != '/')) else none

/-- The rest of an absolute path behind an absolute directory. -/
def relativeTo? (p base : FilePath) : Option FilePath :=
  if p.isAbsolute && base.isAbsolute then
    (behind? base.segments p.text.toList).map fun rest =>
      ⟨String.ofList (trimStart (trimEnd rest))⟩
  else none

end FilePath

end CanvasScript.Storage
