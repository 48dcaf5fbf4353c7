import CanvasScript.Picture.Png.Rows

/-!
# Reading image files

A file is read part by part, and the first thing that goes wrong is its fault.

* `Known`: what the parts in front of the rows say. `Known.learn`: one more of them.
* `readKnown`: the parts up to the first one with rows.
* `Gathered`: parts with rows that follow each other, and how they end.
* `judge`: the octets of all rows, unpacked, or what is wrong with those that are there.
* `read`: the image of a file. Nothing is looked at behind the rows.
-/

namespace CanvasScript.Picture.Png

open Octets

/-! ## In front of the rows -/

/-- What the parts in front of the rows say: how the pixels look, and the number of the last step
of an animation. -/
structure Known where
  look : Look
  step? : Option Nat := none

/-- The channels that are transparent, each in two octets. Those of less than sixteen bits are in
the second one. -/
def keyOf (depth n : Nat) (data : ByteArray) : Option (List Nat) :=
  if data.size < 2 * n then none
  else if depth < 16 then some ((List.range n).map fun k => get data (2 * k + 1))
  else some ((List.range (data.size / 2)).map fun k => nat data (2 * k) 2)

/-- What is transparent, if it makes sense. -/
def Look.clearing (l : Look) (data : ByteArray) : Option (List Nat) :=
  match l.header.channels with
  | .grey => keyOf l.header.depth 1 data
  | .colours => keyOf l.header.depth 3 data
  | .place => if l.palette?.isSome then some (data.toList.map UInt8.toNat) else none
  | .greyAlpha | .coloursAlpha => none

/-- The number of the next step of an animation, which has to follow the last one. -/
def nextStep (step? : Option Nat) (found : Nat) : Except Fault Nat :=
  let expected := match step? with
    | some n => n + 1
    | none => 0
  if found = expected then .ok found else .error (.badOrder expected found)

namespace Known

variable (k : Known)

/-- A step of an animation, which has to be as large as the image. -/
def learnFrame (data : ByteArray) : Except Fault Known := do
  let field := field .frame data
  let step ← nextStep k.step? (← field 0 4)
  let width ← field 4 4
  let height ← field 8 4
  let x ← field 12 4
  let y ← field 16 4
  let _ ← field 20 4
  let disposal ← field 24 1
  if 2 < disposal then throw (.badDisposal disposal)
  let blending ← field 25 1
  if 1 < blending then throw (.badBlending blending)
  if width = 0 ∨ height = 0 then throw .noPixels
  let h := k.look.header
  if (x, y, width, height) ≠ (0, 0, h.width, h.height) then throw .badFrame
  return { k with step? := some step }

/-- What is known behind one more part. -/
def learn (kind : Kind) (data : ByteArray) : Except Fault Known :=
  if kind = .header then .error (.repeated kind)
  else if kind = .palette then
    if k.look.palette?.isSome then .error (.repeated kind)
    else .ok { k with look := { k.look with palette? := some data } }
  else if kind = .ending then .error .noRows
  else if kind = .clearing then
    .ok { k with look := { k.look with clear? := k.look.clear?.or (k.look.clearing data) } }
  else if kind = .frame then k.learnFrame data
  else if kind.isCritical then .error (.unknownKind kind)
  else .ok k

/-- Parts of a kind hold rows. The steps of an animation have rows of their own. -/
def startsRows (kind : Kind) : Except Fault Bool :=
  if kind = .rows then .ok true
  else if kind = .frameRows then
    if k.step?.isSome then .ok true else .error (.strayRows kind)
  else .ok false

end Known

/-- The part at a place. -/
def partAt (file : ByteArray) (i : Nat) : Except Fault Part :=
  match Part.at? file i with
  | some p => .ok p
  | none => .error .cutOff

/-- The check of a part is what it should be. It may be wrong in parts that a reader need not
know, which are then passed over. -/
def checkPart (file : ByteArray) (p : Part) : Except Fault Bool :=
  match p.isSound? file with
  | none => .error .cutOff
  | some true => .ok true
  | some false =>
    if p.kind.isCritical then .error (.badCheck (p.check file) (p.rightCheck file) p.kind)
    else .ok false

/-- What the parts from a place on say, up to the first one with rows; `fuel` bounds their number. -/
def readKnownFrom (file : ByteArray) : Nat → Known → Nat → Except Fault (Known × Part)
  | 0, _, _ => .error .cutOff
  | fuel + 1, k, i => do
    let p ← partAt file i
    if ← k.startsRows p.kind then return (k, p)
    else
      let k ← if ← checkPart file p then k.learn p.kind (p.data file) else pure k
      readKnownFrom file fuel k (p.stop + 4)

/-- What the parts in front of the rows say, and the first part with rows. -/
def readKnown (file : ByteArray) : Except Fault (Known × Part) := do
  let p ← partAt file signature.size
  if p.kind ≠ .header then throw (.beforeHeader p.kind)
  let _ ← checkPart file p
  let header ← Header.read (p.data file)
  readKnownFrom file file.size { look := { header } } (p.stop + 4)

/-! ## Rows -/

/-- What the parts with rows hold, and what is wrong with the file behind that. -/
structure Gathered where
  pieces : List ByteArray
  fault? : Option Fault

/-- One more piece in front of others. -/
def Gathered.cons (piece : ByteArray) (g : Gathered) : Gathered :=
  { g with pieces := piece :: g.pieces }

/-- The rows of a step of an animation without the number that they begin with. -/
def withoutStep (file : ByteArray) (step? : Option Nat) (p : Part) :
    Except Fault (Option Nat × Part) := do
  if p.kind = .frameRows then
    if p.size < 4 then throw .noNumber
    if file.size < p.start + 4 then throw .cutOff
    let step ← nextStep step? (nat file p.start 4)
    return (some step, { p with start := p.start + 4, size := p.size - 4 })
  else return (step?, p)

/-- What a part with rows and those of its kind behind it hold; `fuel` bounds their number. -/
def gather (file : ByteArray) : Nat → Option Nat → Part → Gathered
  | 0, _, _ => ⟨[], some .cutOff⟩
  | fuel + 1, step?, p =>
    match withoutStep file step? p with
    | .error f => ⟨[], some f⟩
    | .ok (step?, rows) =>
      .cons (rows.data file)
        (match checkPart file p with
        | .error f => ⟨[], some f⟩
        | .ok _ =>
          match partAt file (p.stop + 4) with
          | .error f => ⟨[], some f⟩
          | .ok q => if q.kind = p.kind then gather file fuel step? q else ⟨[], none⟩)

/-- What is known of the rows. -/
inductive Rows where
  | all (data : ByteArray)
  /-- Some of them are missing, which is a fault if nothing follows. -/
  | missing (f : Fault)

/-- The rows that packed data stands for, or what is wrong with those that are there. -/
def judge (l : Look) (packed : ByteArray) : Except Fault Rows :=
  let u := Deflate.unpack packed
  let decide (f : Fault) : Except Fault Rows :=
    match l.badRow? u.data with
    | some f => .error f
    | none => .ok (if l.size ≤ u.data.size then .all u.data else .missing f)
  match u.stop with
  | .error .starved => decide (.corrupt .starved)
  | .error e => .error (.corrupt e)
  | .ok _ => decide .fewRows

/-- The rows that pieces of packed data stand for, as soon as they are all there: what follows is
of no consequence, even if it makes no sense. -/
def judgePieces (l : Look) : ByteArray → List ByteArray → Except Fault Rows
  | packed, [] => judge l packed
  | packed, piece :: pieces =>
    match judge l (packed ++ piece) with
    | .ok (.missing f) => if pieces.isEmpty then .ok (.missing f)
      else judgePieces l (packed ++ piece) pieces
    | other => other

/-- The octets that an image may need when it is no longer packed. -/
def roomLimit : Nat := 536870912

/-- The octets of all rows of a file, and how the pixels in them look. -/
def readRows (file : ByteArray) : Except Fault (Look × ByteArray) := do
  let (k, p) ← readKnown file
  let l := k.look
  if roomLimit < l.header.width * l.header.height * l.pixelSize then throw .tooLarge
  let g := gather file file.size k.step? p
  let rows ←
    match judge l (g.pieces.foldl (· ++ ·) ByteArray.empty) with
    | .ok rows => pure rows
    | .error _ => judgePieces l ByteArray.empty g.pieces
  match g.fault?, rows with
  | some f, _ => throw f
  | none, .missing f => throw f
  | none, .all data => return (l, data)

/-! ## Files -/

/-- The file begins with the signature, which is looked at in two halves. -/
def checkSignature (file : ByteArray) : Except Fault Unit := do
  let agrees (n : Nat) : Bool := (slice file 0 n).data == (slice signature 0 n).data
  if file.size < 4 then throw .cutOff
  if !agrees 4 then throw .badSignature
  if file.size < 8 then throw .cutOff
  if !agrees 8 then throw .badSignature

/-- The image of a file. -/
def read (file : ByteArray) : Except Fault Image := do
  checkSignature file
  let (l, data) ← readRows file
  return l.image data

end CanvasScript.Picture.Png
