import CanvasScript.Data.Octets

/-!
# Packed data

Octets packed by the deflate method: blocks that are copied as they are, and blocks of codes for
octets and for pieces that were there before.

* `Halt`: why unpacking comes to a stop; more octets would help against `Halt.starved` only.
* `Bits`: reading bits, the lowest bit of an octet first.
* `Code`: a code whose words are told by their lengths alone, the shorter ones first.
  `Code.isComplete`: every row of bits begins with a word.
* `unpack`: the octets that packed data stands for, as far as they can be told.
* `pack`: octets packed as blocks that are copied, with the frame that goes around them.
-/

namespace CanvasScript.Picture.Deflate

/-! ## Reasons to stop -/

/-- Why unpacking comes to a stop. -/
inductive Halt where
  /-- There is nothing more to read. -/
  | starved
  | badFrame
  | badBlock
  /-- The size of a block that is copied, and what it is checked by, do not agree. -/
  | badSize
  | tooManyLiterals
  | tooManyDistances
  /-- A length is repeated before there is one, or too often. -/
  | badRepetition
  /-- The words for octets and lengths, or the words that give their lengths, make no code. -/
  | badCode
  /-- There is no word for the end of a block. -/
  | endless
  | badDistanceCode
  | unknownLiteral
  | unknownDistance
  /-- A piece begins before the first octet. -/
  | tooFarBack
deriving DecidableEq, Repr

/-- The name of a reason. -/
def Halt.name : Halt → String
  | starved => "InsufficientInput"
  | badFrame => "BadZlibHeader"
  | badBlock => "InvalidBlockType"
  | badSize => "InvalidUncompressedBlockLength"
  | tooManyLiterals => "InvalidHlit"
  | tooManyDistances => "InvalidHdist"
  | badRepetition => "InvalidCodeLengthRepeat"
  | badCode => "BadCodeLengthHuffmanTree"
  | endless => "BadLiteralLengthHuffmanTree"
  | badDistanceCode => "BadDistanceHuffmanTree"
  | unknownLiteral => "InvalidLiteralLengthCode"
  | unknownDistance => "InvalidDistanceCode"
  | tooFarBack => "DistanceTooFarBack"

/-! ## Bits -/

/-- A step that reads bits, the place being counted in bits. -/
abbrev Bits := StateT Nat (Except Halt)

variable (b : ByteArray)

/-- One bit. -/
def bit : Bits Nat := fun i =>
  match b[i / 8]? with
  | some x => .ok ((x.toNat >>> (i % 8)) % 2, i + 1)
  | none => .error .starved

/-- A number of `n` bits, the lowest one first. -/
def bits : Nat → Bits Nat
  | 0 => pure 0
  | n + 1 => do
    let low ← bit b
    let high ← bits n
    return 2 * high + low

/-! ## Codes -/

/-- The words of a code: how many there are of the lengths one, two and so on, up to the longest,
and what they stand for, in the order of the words. -/
structure Code where
  counts : List Nat
  symbols : Array Nat

/-- The code in which the symbol `n` has a word of the `n`-th length; length zero means that there
is none. -/
def Code.ofLengths (lengths : List Nat) : Code :=
  let sizes := (List.range (lengths.foldl max 0)).map (· + 1)
  { counts := sizes.map lengths.count
    symbols := (sizes.flatMap fun size =>
      lengths.zipIdx.filterMap fun (length, symbol) =>
        if length = size then some symbol else none).toArray }

/-- Every row of bits that is long enough begins with just one word. -/
def Code.isComplete (c : Code) : Bool :=
  c.counts.foldl (fun used n => 2 * used + n) 0 == Nat.pow 2 c.counts.length && !c.counts.isEmpty

/-- The code is complete, or it has one word of one bit, or none. -/
def Code.isNearlyComplete (c : Code) : Bool :=
  c.isComplete || c.counts == [] || c.counts == [1]

/-- The symbol of the next word, which is `unknown` if there is no such word. The word read so far
is `word`; of the words of its length, the first one is `first`, and `index` words are shorter. -/
def Code.readFrom (c : Code) (unknown : Halt) : List Nat → Nat → Nat → Nat → Bits Nat
  | [], _, _, _ => throw unknown
  | count :: counts, word, first, index => do
    let word := word + (← bit b)
    if word < first + count then
      match c.symbols[index + (word - first)]? with
      | some s => pure s
      | none => throw unknown
    else c.readFrom unknown counts (2 * word) (2 * (first + count)) (index + count)

/-- The symbol of the next word. -/
def Code.read (c : Code) (unknown : Halt) : Bits Nat :=
  c.readFrom b unknown c.counts 0 0 0

/-! ## Pieces that were there before -/

/-- The number of extra bits for a length or a distance, by steps: the first `free` symbols have
none, and then `share` symbols each have one more than those before. -/
def extraBits (free share symbol : Nat) : Nat :=
  if symbol < free then 0 else (symbol - free) / share + 1

/-- The least value of a symbol: the values of the symbols follow each other. -/
def leastValue (free share start : Nat) : Nat → Nat
  | 0 => start
  | symbol + 1 => leastValue free share start symbol + Nat.pow 2 (extraBits free share symbol)

/-- The length of a piece, by the symbol for it. -/
def readLength (symbol : Nat) : Bits Nat := do
  if symbol = 28 then pure 258
  else if symbol < 28 then
    return leastValue 8 4 3 symbol + (← bits b (extraBits 8 4 symbol))
  else throw .unknownLiteral

/-- How far back a piece begins. -/
def readDistance (distances : Code) : Bits Nat := do
  let symbol ← distances.read b .unknownDistance
  if symbol < 30 then
    return leastValue 4 2 1 symbol + (← bits b (extraBits 4 2 symbol))
  else throw .unknownDistance

/-- A piece of `length` octets that begins `distance` octets back, put behind the others. It may
overlap with itself. -/
def copyBack (distance : Nat) : Nat → ByteArray → ByteArray
  | 0, out => out
  | length + 1, out => copyBack distance length (out.push (out[out.size - distance]?.getD 0))

/-! ## Blocks -/

/-- Octets that are unpacked so far, and the place behind what has been read, or why there is no
more. -/
structure Unpacked where
  data : ByteArray
  stop : Except Halt Nat

/-- What the words of a block stand for, up to the word that ends it; `fuel` bounds their number. -/
def readWords (literals distances : Code) : Nat → ByteArray → Nat → Unpacked
  | 0, out, _ => ⟨out, .error .starved⟩
  | fuel + 1, out, i =>
    match literals.read b .unknownLiteral i with
    | .error e => ⟨out, .error e⟩
    | .ok (symbol, i) =>
      if symbol < 256 then readWords literals distances fuel (out.push (UInt8.ofNat symbol)) i
      else if symbol = 256 then ⟨out, .ok i⟩
      else
        match readLength b (symbol - 257) i with
        | .error e => ⟨out, .error e⟩
        | .ok (length, i) =>
          match readDistance b distances i with
          | .error e => ⟨out, .error e⟩
          | .ok (distance, i) =>
            if distance ≤ out.size then
              readWords literals distances fuel (copyBack distance length out) i
            else ⟨out, .error .tooFarBack⟩

/-- A block that is copied. -/
def readCopied (out : ByteArray) (i : Nat) : Unpacked :=
  let start := (i + 7) / 8
  let number (k : Nat) := Octets.get b k + 256 * Octets.get b (k + 1)
  let size := number start
  if b.size < start + 4 then ⟨out, .error .starved⟩
  else if number (start + 2) ≠ 65535 - size then ⟨out, .error .badSize⟩
  else
    ⟨out ++ Octets.slice b (start + 4) size,
      if start + 4 + size ≤ b.size then .ok (8 * (start + 4 + size)) else .error .starved⟩

/-- The code for octets and lengths that is known beforehand. -/
def knownLiterals : Code :=
  .ofLengths (List.replicate 144 8 ++ List.replicate 112 9 ++ List.replicate 24 7 ++
    List.replicate 8 8)

/-- The code for distances that is known beforehand. -/
def knownDistances : Code :=
  .ofLengths (List.replicate 30 5)

/-- The order in which the lengths of the words for lengths are given. -/
def lengthOrder : List Nat :=
  [16, 17, 18, 0, 8, 7, 9, 6, 10, 5, 11, 4, 12, 3, 13, 2, 14, 1, 15]

/-- Lengths with one of them `n` times more, if not more than `wanted` come of it. -/
def repeatLength (wanted n length : Nat) (known : List Nat) : Bits (List Nat) :=
  if wanted < known.length + n then throw .badRepetition
  else pure (List.replicate n length ++ known)

/-- Exactly `wanted` lengths, the last one first; `fuel` bounds the number of words for them. -/
def readLengths (c : Code) (wanted : Nat) : Nat → List Nat → Bits (List Nat)
  | 0, known => pure known
  | fuel + 1, known => do
    if wanted ≤ known.length then pure known
    else
      let symbol ← c.read b .badCode
      let known ←
        match symbol, known with
        | 16, [] => throw .badRepetition
        | 16, last :: _ => do repeatLength wanted ((← bits b 2) + 3) last known
        | 17, _ => do repeatLength wanted ((← bits b 3) + 3) 0 known
        | 18, _ => do repeatLength wanted ((← bits b 7) + 11) 0 known
        | length, _ => pure (length :: known)
      readLengths c wanted fuel known

/-- The codes at the head of a block that brings its own: for octets and lengths, and for
distances. -/
def readCodes : Bits (Code × Code) := do
  let literals := 257 + (← bits b 5)
  let distances := 1 + (← bits b 5)
  let given := 4 + (← bits b 4)
  if 286 < literals then throw .tooManyLiterals
  if 30 < distances then throw .tooManyDistances
  let lengths ← (lengthOrder.take given).mapM fun symbol => do return (symbol, ← bits b 3)
  let c := Code.ofLengths ((List.range 19).map fun symbol => (lengths.lookup symbol).getD 0)
  if !c.isComplete then throw .badCode
  let wanted := literals + distances
  let all := (← readLengths b c wanted wanted []).reverse
  if all[256]?.getD 0 = 0 then throw .endless
  let ofLiterals := Code.ofLengths (all.take literals)
  if !ofLiterals.isComplete then throw .badCode
  let ofDistances := Code.ofLengths ((all.drop literals).take distances)
  if !ofDistances.isNearlyComplete then throw .badDistanceCode
  return (ofLiterals, ofDistances)

/-- One block, without the bit that marks the last one. -/
def readBlock (out : ByteArray) (i : Nat) : Unpacked :=
  match bits b 2 i with
  | .error e => ⟨out, .error e⟩
  | .ok (0, i) => readCopied b out i
  | .ok (1, i) => readWords b knownLiterals knownDistances (8 * b.size + 1) out i
  | .ok (2, i) =>
    match readCodes b i with
    | .error e => ⟨out, .error e⟩
    | .ok ((literals, distances), i) => readWords b literals distances (8 * b.size + 1) out i
  | .ok _ => ⟨out, .error .badBlock⟩

/-- All blocks up to the one that is marked as the last; `fuel` bounds their number. -/
def readBlocks : Nat → ByteArray → Nat → Unpacked
  | 0, out, _ => ⟨out, .error .starved⟩
  | fuel + 1, out, i =>
    match bit b i with
    | .error e => ⟨out, .error e⟩
    | .ok (last, i) =>
      match readBlock b out i with
      | ⟨out, .error e⟩ => ⟨out, .error e⟩
      | ⟨out, .ok i⟩ => if last = 1 then ⟨out, .ok i⟩ else readBlocks fuel out i

/-- Data is framed by two octets that name the method and are checked by their remainder. -/
def isFramed : Bool :=
  let method := Octets.get b 0
  let marks := Octets.get b 1
  method % 16 == 8 && method / 16 ≤ 7 && marks / 32 % 2 == 0 && (256 * method + marks) % 31 == 0

/-- The octets that packed data stands for, as far as they can be told. Behind the blocks there
are four octets with a sum that is passed over. -/
def unpack : Unpacked :=
  if b.size < 2 then ⟨ByteArray.empty, .error .starved⟩
  else if !isFramed b then ⟨ByteArray.empty, .error .badFrame⟩
  else
    match readBlocks b (8 * b.size + 1) ByteArray.empty 16 with
    | ⟨out, .error e⟩ => ⟨out, .error e⟩
    | ⟨out, .ok i⟩ =>
      let stop := (i + 7) / 8 + 4
      ⟨out, if stop ≤ b.size then .ok (8 * stop) else .error .starved⟩

/-! ## Packing -/

/-- The sum at the end of the frame. -/
def sum : Nat :=
  let (low, high) := b.foldl
    (fun (low, high) x =>
      let low := (low + x.toNat) % 65521
      (low, (high + low) % 65521)) (1, 0)
  65536 * high + low

/-- The largest block that is copied. -/
def blockSize : Nat := 65535

/-- The number of blocks for all octets, at least one. -/
def blockCount : Nat :=
  max 1 ((b.size + blockSize - 1) / blockSize)

/-- The `n`-th block. -/
def block (n : Nat) : ByteArray :=
  let data := Octets.slice b (blockSize * n) blockSize
  let size := data.size
  let other := 65535 - size
  ByteArray.mk #[if n + 1 = blockCount b then 1 else 0, UInt8.ofNat (size % 256),
    UInt8.ofNat (size / 256), UInt8.ofNat (other % 256), UInt8.ofNat (other / 256)] ++ data

/-- Octets packed as blocks that are copied. -/
def pack : ByteArray :=
  (List.range (blockCount b)).foldl (fun out n => out ++ block b n) (ByteArray.mk #[0x78, 0x01]) ++
    Octets.ofNat (sum b) 4

end CanvasScript.Picture.Deflate
