import CanvasScript.Script.Node
import CanvasScript.Fault

/-!
# Reading a script

A script is read in one pass, character by character, with a stack of open calls and a cursor that
locates calls and arguments as they are read.

* `Region`: a stretch of nodes in the making, that of the whole script or of one argument.
* `Frame`: an open call, with the region it stands in and its finished arguments.
* `Pending`: a backslash or a `$` whose meaning the next characters decide.
* `State.step`: one character. In an argument, `;` ends the argument and `]` the call unless a
  bare bracket of that argument is open; outside calls all three brackets and separators are text.
* `State.finish`: the tree with byte offsets, or the call that is still open.
* `State.requests`: the offsets that a character has the cursor locate.
* `Reader.step`: one character, with the cursor behind it. A fault names the location that the
  cursor has found for the call that is to blame.
* `Node.locateAll`: the tree with locations, found by a cursor that moves forward through it.
* `read`: all of it for a whole script.

The program reads by two functions that call each other, `call` for a call and `sequence` for what
stands in a script or an argument. A frame is a run of `call` that waits for an argument to be read,
a region a run of `sequence`, and the cursor is located by `locate`.
-/

namespace CanvasScript.Script

/-- Calls may be nested this deep (`MAX_DEPTH`). -/
def maxDepth : Nat := 128

/-! ## What is being read -/

/-- The nodes read so far in the script or in an argument. -/
structure Region where
  /-- Finished nodes, last first. -/
  nodes : List (Node Nat) := []
  /-- Literal text after the last finished node. -/
  literal : String := ""
  /-- Everything read, as it stands in the script. -/
  source : String := ""

namespace Region

/-- More literal text, with the way it was written. -/
def add (r : Region) (literal source : String) : Region :=
  { r with literal := r.literal ++ literal, source := r.source ++ source }

/-- The literal text made into a node, unless it is empty. -/
def flush (r : Region) : Region :=
  if r.literal.isEmpty then r
  else { r with nodes := .text r.literal :: r.nodes, literal := "" }

/-- A finished node, with the way it was written. -/
def push (r : Region) (n : Node Nat) (source : String) : Region :=
  let r := r.flush
  { r with nodes := n :: r.nodes, source := r.source ++ source }

/-- The nodes, in order. -/
def finish (r : Region) : List (Node Nat) :=
  r.flush.nodes.reverse

end Region

/-- An open call. -/
structure Frame where
  /-- The region that the call stands in. -/
  outer : Region
  name : String
  /-- The offset of the call. -/
  start : Nat
  /-- The finished arguments, last first. -/
  arguments : List (Argument Nat) := []
  /-- The offset of the argument being read. -/
  opened : Nat
  /-- Bare brackets that are open in it. -/
  bare : Nat := 0

/-- The characters whose meaning is not settled yet. -/
inductive Pending where
  | nothing
  | backslash
  /-- A `$` at an offset, with the letters behind it. -/
  | name (start : Nat) (letters : String)

/-- Where the reader stands. -/
structure State where
  /-- The innermost region. -/
  region : Region := {}
  /-- The open calls, innermost first. -/
  frames : List Frame := []
  pending : Pending := .nothing
  offset : Nat := 0

/-- Why reading stopped, with the name and the offset of the call it is about. -/
inductive Failure where
  | unclosed (name : String) (start : Nat)
  | tooDeep (name : String) (start : Nat)

/-! ## Characters -/

/-- The characters that a backslash makes literal. -/
def isSpecial (c : Char) : Bool :=
  c == '$' || c == '[' || c == ']' || c == ';' || c == '\\'

/-- The first character of a name. -/
def startsName (c : Char) : Bool :=
  c.isAlpha || c == '_'

/-- A later character of a name. -/
def continuesName (c : Char) : Bool :=
  c.isAlphanum || c == '_'

/-! ## One character -/

namespace State

/-- Pending characters turn out to be what they are by themselves: a backslash and a lone `$` are
text, a name is a mention. -/
def settle (s : State) : State :=
  match s.pending with
  | .nothing => s
  | .backslash => { s with region := s.region.add "\\" "\\", pending := .nothing }
  | .name start letters =>
    let name := "$" ++ letters
    let region :=
      if letters.isEmpty then s.region.add name name
      else s.region.push (.mention name ⟨start, s.offset⟩) name
    { s with region, pending := .nothing }

/-- A character of literal text. -/
def literal (s : State) (c : Char) : State :=
  { s with region := s.region.add c.toString c.toString, offset := s.offset + c.utf8Size }

/-- The argument being read, which ends here. -/
def argument (s : State) (f : Frame) : Argument Nat :=
  ⟨s.region.finish, s.region.source, ⟨f.opened, s.offset⟩⟩

/-- A `[` opens the call `name`, which begins at `start`. -/
def openCall (s : State) (name : String) (start : Nat) : State where
  frames :=
    { outer := s.region, name, start, opened := s.offset + 1 } :: s.frames
  offset := s.offset + 1

/-- A `;` ends an argument, and another one begins behind it. -/
def separate (s : State) (f : Frame) (fs : List Frame) : State where
  frames :=
    { f with arguments := s.argument f :: f.arguments, opened := s.offset + 1, bare := 0 } :: fs
  offset := s.offset + 1

/-- A `]` ends a call. Brackets with nothing between them hold no argument at all. -/
def closeCall (s : State) (f : Frame) (fs : List Frame) : State :=
  let arguments :=
    if f.arguments.isEmpty && s.region.source.isEmpty then []
    else (s.argument f :: f.arguments).reverse
  let stop := s.offset + 1
  let source := f.name ++ "[" ++ ";".intercalate (arguments.map (·.source)) ++ "]"
  { region := f.outer.push (.call f.name arguments ⟨f.start, stop⟩) source
    frames := fs
    offset := stop }

/-- A character when nothing is pending. -/
def plain (s : State) (c : Char) : State :=
  if c = '\\' then { s with pending := .backslash, offset := s.offset + 1 }
  else if c = '$' then { s with pending := .name s.offset "", offset := s.offset + 1 }
  else
    match s.frames with
    | [] => s.literal c
    | f :: fs =>
      if c = '[' then { s.literal c with frames := { f with bare := f.bare + 1 } :: fs }
      else if f.bare = 0 then
        if c = ';' then s.separate f fs
        else if c = ']' then s.closeCall f fs
        else s.literal c
      else if c = ']' then { s.literal c with frames := { f with bare := f.bare - 1 } :: fs }
      else s.literal c

/-- One character. -/
def step (s : State) (c : Char) : Except Failure State :=
  match s.pending with
  | .nothing => .ok (s.plain c)
  | .backslash =>
    if isSpecial c then
      .ok { s with
        region := s.region.add c.toString ("\\" ++ c.toString)
        pending := .nothing
        offset := s.offset + 1 }
    else .ok (s.settle.plain c)
  | .name start letters =>
    if letters.isEmpty && startsName c || !letters.isEmpty && continuesName c then
      .ok { s with pending := .name start (letters.push c), offset := s.offset + 1 }
    else if c = '[' && !letters.isEmpty then
      if maxDepth ≤ s.frames.length then .error (.tooDeep ("$" ++ letters) start)
      else .ok (s.openCall ("$" ++ letters) start)
    else .ok (s.settle.plain c)

/-- The end of the script: no call may be open. -/
def finish (s : State) : Except Failure (List (Node Nat)) :=
  match s.frames with
  | [] => .ok s.settle.region.finish
  | f :: _ => .error (.unclosed f.name f.start)

end State

/-! ## What is located -/

/-- The character is read together with those pending. -/
def Pending.joins : Pending → Char → Bool
  | .nothing, _ => false
  | .backslash, c => isSpecial c
  | .name _ letters, c =>
    if letters.isEmpty then startsName c else continuesName c || c == '['

namespace State

/-- The place of a first argument of which nothing has been read. Whether there is such an argument
depends on the character to come. -/
def waiting (s : State) : List Nat :=
  match s.frames with
  | [] => []
  | f :: _ => if f.arguments.isEmpty && f.opened == s.offset then [f.opened] else []

/-- The ends of a name that turns out to be a mention. -/
def settling (s : State) : List Nat :=
  match s.pending with
  | .name start letters => if letters.isEmpty then [] else [start, s.offset]
  | _ => []

/-- What is located for a character when nothing is pending: the ends of the argument and of the
call that it closes, or of the arguments that it separates. -/
def plainRequests (s : State) (c : Char) : List Nat :=
  match s.frames with
  | [] => []
  | f :: _ =>
    if f.bare = 0 ∧ c = ']' then
      if s.waiting.isEmpty then [s.offset, s.offset + 1] else [s.offset + 1]
    else if f.bare = 0 ∧ c = ';' then s.waiting ++ [s.offset, s.offset + 1]
    else s.waiting

/-- What is located for a character: the start of a call when its bracket is read, and what the
character settles. -/
def requests (s : State) (c : Char) : List Nat :=
  if s.pending.joins c then
    match s.pending with
    | .name start _ => if c = '[' then [start] else []
    | _ => []
  else s.settling ++ s.settle.plainRequests c

end State

/-! ## Locations of a tree -/

mutual

/-- A node with locations; the cursor starts at `l`, and where it ends is returned. -/
def Node.locate (source : String) : Node Nat → Location → Node Location × Location
  | .text content, l => (.text content, l)
  | .mention name span, l =>
    let start := l.advance source span.start
    let stop := start.advance source span.stop
    (.mention name ⟨start, stop⟩, stop)
  | .call name arguments span, l =>
    let start := l.advance source span.start
    let (arguments, l) := Argument.locateAll source arguments start
    let stop := l.advance source span.stop
    (.call name arguments ⟨start, stop⟩, stop)

/-- An argument with locations. -/
def Argument.locate (source : String) : Argument Nat → Location → Argument Location × Location
  | ⟨nodes, text, span⟩, l =>
    let start := l.advance source span.start
    let (nodes, l) := Node.locateAll source nodes start
    let stop := l.advance source span.stop
    (⟨nodes, text, ⟨start, stop⟩⟩, stop)

/-- Arguments with locations, the cursor passing through them in order. -/
def Argument.locateAll (source : String) :
    List (Argument Nat) → Location → List (Argument Location) × Location
  | [], l => ([], l)
  | a :: as, l =>
    let (a, l) := a.locate source l
    let (as, l) := Argument.locateAll source as l
    (a :: as, l)

/-- Nodes with locations, the cursor passing through them in order. -/
def Node.locateAll (source : String) :
    List (Node Nat) → Location → List (Node Location) × Location
  | [], l => ([], l)
  | n :: ns, l =>
    let (n, l) := n.locate source l
    let (ns, l) := Node.locateAll source ns l
    (n :: ns, l)

end

/-! ## Reading with a cursor -/

/-- The fault that a failure is reported as, where the call that it is about begins at `l`. -/
def Failure.fault (l : Location) : Failure → Fault
  | unclosed name _ => .parse (.unclosed name l)
  | tooDeep name _ => .parse (.tooDeep name l maxDepth)

/-- Where the reader stands, and the cursor behind it. -/
structure Reader where
  state : State := {}
  /-- What was located last. -/
  cursor : Location := Location.start
  /-- Where the open calls begin, innermost first. -/
  begins : List Location := []

namespace Reader

/-- Where the calls begin that are open in the next state. If a call has been opened, it begins at
the cursor. -/
def begun (r : Reader) (next : State) (cursor : Location) : List Location :=
  if r.state.frames.length < next.frames.length then cursor :: r.begins
  else if next.frames.length < r.state.frames.length then r.begins.tail
  else r.begins

/-- One character. -/
def step (source : String) (r : Reader) (c : Char) : Except Fault Reader :=
  let cursor := r.cursor.follow source (r.state.requests c)
  match r.state.step c with
  | .ok state => .ok { state, cursor, begins := r.begun state cursor }
  | .error failure => .error (failure.fault cursor)

/-- The characters one after the other. -/
def run (source : String) (r : Reader) : List Char → Except Fault Reader
  | [] => .ok r
  | c :: cs =>
    match r.step source c with
    | .ok r => r.run source cs
    | .error fault => .error fault

/-- The end of the script. A call that is open there is reported where it begins. -/
def finish (source : String) (r : Reader) : Except Fault (List (Node Location)) :=
  match r.state.finish with
  | .ok nodes => .ok (Node.locateAll source nodes Location.start).1
  | .error failure => .error (failure.fault (r.begins.headD r.cursor))

end Reader

/-- The tree of a script, with locations (`parse`). -/
def read (source : String) : Except Fault (List (Node Location)) := do
  (← ({} : Reader).run source source.toList).finish source

end CanvasScript.Script
