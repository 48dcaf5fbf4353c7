import CanvasScript.Yaml.Token

/-!
# The tree of a document

* `Node`: a scalar, a sequence or a mapping. Aliases are replaced by what they stand for; an alias
  within its own anchor stands for a mapping without pairs.
* `Composer`: steps over the tokens of a document that remember its anchors.
* `Composer.node`: the node that the next tokens describe.
* `Node.ofText?`: the tree of a text that holds one document or none.
-/

namespace CanvasScript.Yaml

/-- A part of a document. -/
inductive Node where
  /-- A text, and whether it is spelt without marks. -/
  | scalar (text : String) (plain : Bool)
  | sequence (items : List Node)
  | mapping (pairs : List (Node × Node))
deriving Inhabited

/-- The scalar that stands where nothing is. -/
def Node.blank : Node := .scalar "" true

/-- A name for a node. -/
structure Anchor where
  name : String
  node : Node

/-- What is left of the tokens, the anchors, the latest first, and the shorthands of tags. -/
structure Reading where
  rest : List Token
  anchors : List Anchor := []
  handles : List String := ["!", "!!"]

/-- A step over tokens, which may fail. -/
abbrev Composer := StateT Reading Option

namespace Composer

/-- The next token. -/
def peek : Composer (Option Token) := return (← get).rest.head?

/-- The next token is passed over. -/
def skip : Composer Unit :=
  modify fun r => { r with rest := r.rest.tail }

/-- The next token is the given one, and is passed over. -/
def accept (t : Token) : Composer Bool := do
  if (← peek) == some t then
    skip
    return true
  else return false

/-- The next token has to be the given one. -/
def require (t : Token) : Composer Unit := do
  if ← accept t then pure () else failure

/-- The next token is one of some tokens. -/
def seesOneOf (ts : List Token) : Composer Bool := do
  match ← peek with
  | some t => return ts.contains t
  | none => return false

/-! ## Anchors and tags -/

/-- What stands before a node. -/
structure Properties where
  anchor? : Option String := none
  tagged : Bool := false

/-- The anchor before a node. -/
def anchor (p : Properties) : Composer Properties := do
  match ← peek with
  | some (.anchor name) =>
    skip
    return { p with anchor? := some name }
  | _ => return p

/-- The tag before a node, whose shorthand has to be declared. -/
def tag (p : Properties) : Composer Properties := do
  match ← peek with
  | some (.tag handle) =>
    skip
    if handle.isEmpty || (← get).handles.contains handle then return { p with tagged := true }
    else failure
  | _ => return p

/-- An anchor and a tag, in either order. -/
def properties : Composer Properties := do
  match ← peek with
  | some (.anchor _) => tag (← anchor {})
  | _ => anchor (← tag {})

/-- A name for a node that is about to be read; the number of anchors before it. -/
def openAnchor (name? : Option String) : Composer Nat := do
  let count := (← get).anchors.length
  match name? with
  | some name => modify fun r => { r with anchors := ⟨name, .mapping []⟩ :: r.anchors }
  | none => pure ()
  return count

/-- The anchor behind `count` others names a node that has been read. -/
def closeAnchor (name? : Option String) (count : Nat) (n : Node) : Composer Unit :=
  match name? with
  | some name => modify fun r =>
    { r with anchors := r.anchors.set (r.anchors.length - 1 - count) ⟨name, n⟩ }
  | none => pure ()

/-- What a name stands for. -/
def resolve (name : String) : Composer Node := do
  match (← get).anchors.find? (·.name == name) with
  | some a => return a.node
  | none => failure

/-! ## Nodes -/

mutual

/-- The node of the next tokens. Block collections have to be allowed, and so have sequences that
are not indented further than the key they belong to. The first argument bounds the number of
steps. -/
def node (block flush : Bool) : Nat → Composer Node
  | 0 => failure
  | n + 1 => do
    match ← peek with
    | some (.alias name) =>
      skip
      resolve name
    | _ =>
      let p ← properties
      let count ← openAnchor p.anchor?
      let result ← content block flush (p.anchor?.isSome || p.tagged) n
      closeAnchor p.anchor? count result
      return result

/-- The node of the next tokens, without anchor and tag. -/
def content (block flush optional : Bool) : Nat → Composer Node
  | 0 => failure
  | n + 1 => do
    match ← peek with
    | some .item => if flush then return .sequence (← flushItems n) else missing
    | some (.scalar text plain) =>
      skip
      return .scalar text plain
    | some .flowSequence =>
      skip
      return .sequence (← flowItems true n)
    | some .flowMapping =>
      skip
      return .mapping (← flowPairs true n)
    | some .blockSequence =>
      if block then
        skip
        return .sequence (← blockItems n)
      else missing
    | some .blockMapping =>
      if block then
        skip
        return .mapping (← blockPairs n)
      else missing
    | _ => missing
where
  /-- There may be nothing behind an anchor or a tag. -/
  missing : Composer Node := if optional then return .blank else failure

/-- A node unless one of some tokens is next. -/
def nodeUnless (stops : List Token) (block flush : Bool) : Nat → Composer Node
  | 0 => failure
  | n + 1 => do
    if ← seesOneOf stops then return .blank else node block flush n

/-- The items of a block sequence. -/
def blockItems : Nat → Composer (List Node)
  | 0 => failure
  | n + 1 => do
    if ← accept .item then
      let first ← nodeUnless [.item, .blockEnd] true false n
      return first :: (← blockItems n)
    else
      require .blockEnd
      return []

/-- The items of a sequence that is not indented further than the key it belongs to. -/
def flushItems : Nat → Composer (List Node)
  | 0 => failure
  | n + 1 => do
    if ← accept .item then
      let first ← nodeUnless [.item, .key, .value, .blockEnd] true false n
      return first :: (← flushItems n)
    else return []

/-- The pairs of a block mapping. -/
def blockPairs : Nat → Composer (List (Node × Node))
  | 0 => failure
  | n + 1 => do
    if ← accept .blockEnd then return []
    else
      let stops := [Token.key, .value, .blockEnd]
      let key ←
        if ← accept .key then nodeUnless stops true true n else failure
      let value ← if ← accept .value then nodeUnless stops true true n else pure .blank
      return (key, value) :: (← blockPairs n)

/-- The items of a flow sequence; a comma stands before all but the first. -/
def flowItems (first : Bool) : Nat → Composer (List Node)
  | 0 => failure
  | n + 1 => do
    if ← accept .flowSequenceEnd then return []
    else
      if first then pure () else require .comma
      if ← accept .key then
        let pair ← singlePair n
        return .mapping [pair] :: (← flowItems false n)
      else if ← accept .flowSequenceEnd then return []
      else
        let item ← node false false n
        return item :: (← flowItems false n)

/-- A pair that is an item of a flow sequence. -/
def singlePair : Nat → Composer (Node × Node)
  | 0 => failure
  | n + 1 => do
    let key ←
      if ← seesOneOf [.value, .comma, .flowSequenceEnd] then
        skip
        pure .blank
      else node false false n
    let value ←
      if ← accept .value then nodeUnless [.comma, .flowSequenceEnd] false false n
      else pure .blank
    return (key, value)

/-- The pairs of a flow mapping; a comma stands before all but the first. -/
def flowPairs (first : Bool) : Nat → Composer (List (Node × Node))
  | 0 => failure
  | n + 1 => do
    if ← accept .flowMappingEnd then return []
    else
      if first then pure () else require .comma
      if ← accept .key then
        let key ← nodeUnless [.value, .comma, .flowMappingEnd] false false n
        let value ←
          if ← accept .value then nodeUnless [.comma, .flowMappingEnd] false false n
          else pure .blank
        return (key, value) :: (← flowPairs false n)
      else if ← accept .flowMappingEnd then return []
      else
        let key ← node false false n
        return (key, .blank) :: (← flowPairs false n)

end

/-! ## Documents -/

/-- A version that can be read. -/
def isKnownVersion (major minor : Nat) : Bool :=
  major == 1 && (minor == 1 || minor == 2)

/-- The directives before a document; the version and each shorthand are declared at most once. -/
def directives (versioned : Bool) (declared : List String) : Nat → Composer Unit
  | 0 => failure
  | n + 1 => do
    match ← peek with
    | some (.version major minor) =>
      if versioned || !isKnownVersion major minor then failure
      else
        skip
        directives true declared n
    | some (.tagHandle handle) =>
      if declared.contains handle then failure
      else
        skip
        modify fun r => { r with handles := handle :: r.handles }
        directives versioned (handle :: declared) n
    | _ => pure ()

/-- The content of a document behind its start. -/
def documentContent (fuel : Nat) : Composer Node := do
  match ← peek with
  | none => return .blank
  | some (.version ..) => return .blank
  | some (.tagHandle _) => return .blank
  | some .documentStart => return .blank
  | some .documentEnd => return .blank
  | some _ => node true false fuel

/-- The ends of a document. -/
def documentEnds : Nat → Composer Unit
  | 0 => pure ()
  | n + 1 => do
    if ← accept .documentEnd then documentEnds n else pure ()

/-- The only document, if there is one; nothing may follow it. -/
def document? (fuel : Nat) : Composer (Option Node) := do
  match ← peek with
  | none => return none
  | some t =>
    let marked := match t with
      | .version .. | .tagHandle _ | .documentStart => true
      | _ => false
    let result ←
      if marked then
        directives false [] fuel
        require .documentStart
        documentContent fuel
      else node true false fuel
    documentEnds fuel
    if (← peek).isNone then return some result else failure

end Composer

/-- The tree of a text that holds one document, or `none` within for a text without any. -/
def Node.ofText? (s : String) : Option (Option Node) := do
  let tokens ← tokens? s
  let (document?, _) ← (Composer.document? (4 * tokens.length + 8)).run { rest := tokens }
  return document?

end CanvasScript.Yaml
