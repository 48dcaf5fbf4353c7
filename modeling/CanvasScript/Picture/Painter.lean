import CanvasScript.Canvas.Basic
import CanvasScript.Picture.Distance
import CanvasScript.Picture.Lettering
import CanvasScript.Storage.FileSystem

/-!
# Painting layers

* `loadFonts`: the typefaces of the fonts of a canvas; every font has to be readable.
* `loadSource`: the image that the source of an image layer names. Of the formats that an extension
  can stand for only that of portable network graphics is modelled (`isImagePath`); a source in
  another one, such as JPEG, GIF, BMP or WebP, is not read.
* `paintShape`: what the layers without text and images paint; `paintImage` and `drawText` do the
  others.
* `paintLayers`: layers painted in order. Each image source is read once and kept.
* `renderImage`: all layers of a canvas on a transparent image.
-/

namespace CanvasScript.Picture

open Number Canvas Storage

/-! ## Fonts and sources -/

/-- The typefaces of fonts, by family. -/
abbrev Typefaces := KeyMap String Typeface

/-- The typeface in the file of a font. -/
def loadFont (fs : FileSystem) (f : Font) : Except Fault Typeface :=
  match fs.readContent f.path with
  | .ok c =>
    match c.typeface? with
    | some t => .ok t
    | none => .error (.render (.fontInvalid f.path.text))
  | .error e => .error (.render (.fontUnreadable f.path.text f.family e.reason))

/-- The typefaces of some fonts, added to others. -/
def loadFonts (fs : FileSystem) : List Font → Typefaces → Except Fault Typefaces
  | [], known => .ok known
  | f :: rest, known => do
    let t ← loadFont fs f
    loadFonts fs rest (known.insert f.family t)

/-- The path of an image source: the trimmed text, without the mark of a local address. -/
def sourcePath (source : String) : Except Fault FilePath :=
  let source := Text.trim source
  if source.startsWith "http://" || source.startsWith "https://" then
    .error (.render (.imageRemote source))
  else if source.startsWith "file://" then .ok ⟨(source.drop 7).toString⟩
  else .ok ⟨source⟩

/-- Something that can be opened is an image of the only format that is modelled, as far as the
extension of its path tells. -/
def isImagePath (p : FilePath) : Bool :=
  match p.extension? with
  | some e => Text.sameFold e "png" || Text.sameFold e "apng"
  | none => false

/-- The image at the end of a path, or why there is none: the format goes by the extension, and the
octets of the file have to be an image of that format. -/
def openImage (fs : FileSystem) (p : FilePath) : Except String Image :=
  match fs.lookup p with
  | .error e => .error e.reason
  | .ok entry =>
    if !isImagePath p then .error "The image format could not be determined"
    else
      match entry with
      | .directory => .error SystemFault.isDirectory.reason
      | .file c => c.loadImage.mapError Png.Fault.message

/-- The image that a source names. -/
def loadSource (fs : FileSystem) (source : String) : Except Fault Image := do
  let path ← sourcePath source
  match openImage fs path with
  | .ok i => .ok i
  | .error reason => .error (.render (.imageUnreadable path.text reason))

/-! ## Shapes -/

/-- The pixels of an image within `margin` of a box. -/
def grown? (image : Image) (left top right bottom margin : Float32) : Option Region :=
  Region.clipped? (left - margin) (top - margin) (right + margin) (bottom + margin)
    image.width image.height

/-- How far strokes may reach beyond a shape (`margin`). -/
def marginOf (stroke : Float32) (outline? : Option Outline) : Float32 :=
  Single.greater stroke
    (match outline? with
      | some o => Float32.ofNat o.stroke
      | none => 0) + 1

/-- The outline of a shape, if it has one. -/
def paintOutline (image : Image) (region : Region) (outline? : Option Outline)
    (distance? : Float32 → Float32 → Option Float32) : Image :=
  match outline? with
  | some o => paint image region o.paint distance? (o.kind.covers · (Float32.ofNat o.stroke))
  | none => image

/-- A shape and then its outline. -/
def paintBoth (image : Image) (region : Region) (p : Paint) (outline? : Option Outline)
    (distance? : Float32 → Float32 → Option Float32) : Image :=
  paintOutline (paint image region p.colour distance? (body p.filled p.stroke)) region outline?
    distance?

/-- A part of a circle around a point. -/
def paintArc (image : Image) (x y : Int) (radius : Nat) (p : Paint) (start stop : Float32)
    (outline? : Option Outline) : Image :=
  let cx := Float32.ofInt x
  let cy := Float32.ofInt y
  let r := Float32.ofNat radius
  match grown? image (cx - r) (cy - r) (cx + r) (cy + r) (marginOf p.stroke outline?) with
  | none => image
  | some region =>
    paintBoth image region p outline? fun px py =>
      if inSweep (angleOf (px - cx) (py - cy)) start stop then some (circle px py cx cy r)
      else none

/-- A circle whose box begins at a point. -/
def paintCircle (image : Image) (x y : Int) (radius : Nat) (p : Paint)
    (outline? : Option Outline) : Image :=
  let r := Float32.ofNat radius
  let left := Float32.ofInt x
  let top := Float32.ofInt y
  match grown? image left top (left + 2 * r) (top + 2 * r) (marginOf p.stroke outline?) with
  | none => image
  | some region =>
    paintBoth image region p outline? fun px py =>
      some (circle px py (left + r) (top + r) r)

/-- A box around a point. -/
structure CentredBox where
  left : Float32
  top : Float32
  width : Float32
  height : Float32
  radius : Float32

/-- The box of a size around a point, rounded towards the lower right. -/
def centredBox (x y : Int) (size : BoxSize) : CentredBox where
  left := Float32.ofInt x - Float32.ofNat (size.width / 2)
  top := Float32.ofInt y - Float32.ofNat (size.height / 2)
  width := Float32.ofNat size.width
  height := Float32.ofNat size.height
  radius := Float32.ofNat size.radius

/-- The distance from the edge of a box. -/
def CentredBox.distance? (b : CentredBox) (px py : Float32) : Option Float32 :=
  roundedBox? px py b.left b.top b.width b.height b.radius

/-- The pixels of an image within `margin` of a box. -/
def CentredBox.grown? (b : CentredBox) (image : Image) (margin : Float32) : Option Region :=
  Picture.grown? image b.left b.top (b.left + b.width) (b.top + b.height) margin

/-- A box with round corners around a point. -/
def paintEllipse (image : Image) (x y : Int) (size : BoxSize) (p : Paint)
    (outline? : Option Outline) : Image :=
  let box := centredBox x y size
  match box.grown? image (marginOf p.stroke outline?) with
  | none => image
  | some region => paintBoth image region p outline? box.distance?

/-! ## Images -/

/-- The colour of an image at a point between its pixels, from the four around it. The pixels at
the edges reach outwards. -/
def sample (source : Image) (x y : Float32) : Colour :=
  let maxX := Float32.ofNat (source.width - 1)
  let maxY := Float32.ofNat (source.height - 1)
  let x := Single.clamp x 0 maxX
  let y := Single.clamp y 0 maxY
  let x₀ := x.floor
  let y₀ := y.floor
  let x₁ := Single.lesser (x₀ + 1) maxX
  let y₁ := Single.lesser (y₀ + 1) maxY
  let fx := x - x₀
  let fy := y - y₀
  let texel (tx ty : Float32) : Colour := source.get (Single.toNat tx) (Single.toNat ty)
  let a := texel x₀ y₀
  let b := texel x₁ y₀
  let c := texel x₀ y₁
  let d := texel x₁ y₁
  let channel (f : Colour → UInt8) : UInt8 :=
    toByte (ofByte (f a) * ((1 - fx) * (1 - fy)) + ofByte (f b) * (fx * (1 - fy)) +
      ofByte (f c) * ((1 - fx) * fy) + ofByte (f d) * (fx * fy))
  ⟨channel (·.red), channel (·.green), channel (·.blue), channel (·.alpha)⟩

/-- One pixel of an image layer: the source scaled to the box, where the box covers the centre. -/
def paintTexel (source : Image) (box : CentredBox) (image : Image) (pixel : Nat × Nat) : Image :=
  let (px, py) := centre pixel.1 pixel.2
  match box.distance? px py with
  | none => image
  | some d =>
    if 0 < d || px < box.left || py < box.top || box.left + box.width ≤ px ||
        box.top + box.height ≤ py then image
    else
      let scaleX := Float32.ofNat source.width / box.width
      let scaleY := Float32.ofNat source.height / box.height
      let colour := sample source ((px - box.left) * scaleX - 0.5) ((py - box.top) * scaleY - 0.5)
      image.modify pixel.1 pixel.2 (blend · colour 1)

/-- An image in a box with round corners around a point. -/
def paintImage (image : Image) (x y : Int) (size : BoxSize) (source : Image)
    (outline? : Option Outline) : Image :=
  if size.width = 0 ∨ size.height = 0 then image
  else
    let box := centredBox x y size
    match box.grown? image (marginOf 0 outline?) with
    | none => image
    | some region =>
      paintOutline (region.pixels.foldl (paintTexel source box) image) region outline?
        box.distance?

/-! ## Layers -/

/-- The typeface of a family. -/
def requireTypeface (faces : Typefaces) (family : String) : Except Fault Typeface :=
  match faces.find? family with
  | some t => .ok t
  | none => .error (.render (.fontMissing family))

/-- Sources that have been read, by the text that names them. -/
abbrev Sources := KeyMap String Image

/-- The image of a source that may have been read already, and the sources read then. -/
def fetch (fs : FileSystem) (known : Sources) (source : String) :
    Except Fault (Image × Sources) :=
  match known.find? source with
  | some i => .ok (i, known)
  | none => do
    let i ← loadSource fs source
    .ok (i, known.insert source i)

/-- One layer on an image, and the sources read then (`Surface.layer`). -/
def paintLayer (fs : FileSystem) (faces : Typefaces) (known : Sources) (image : Image)
    (l : Layer) : Except Fault (Image × Sources) :=
  match l.shape with
  | .arc radius p start stop =>
    .ok (paintArc image l.x l.y radius p start stop l.outline?, known)
  | .circle radius p => .ok (paintCircle image l.x l.y radius p l.outline?, known)
  | .ellipse size p => .ok (paintEllipse image l.x l.y size p l.outline?, known)
  | .ellipseImage size source => do
    let (i, known) ← fetch fs known source
    .ok (paintImage image l.x l.y size i l.outline?, known)
  | .text font size colour text align => do
    let t ← requireTypeface faces font
    .ok (drawText t size colour align text l.x l.y image, known)

/-- Layers on an image, in order. -/
def paintLayers (fs : FileSystem) (faces : Typefaces) :
    List Layer → Sources → Image → Except Fault Image
  | [], _, image => .ok image
  | l :: ls, known, image => do
    let (image, known) ← paintLayer fs faces known image l
    paintLayers fs faces ls known image

/-- The layers on a transparent image of a size. -/
def renderLayers (fs : FileSystem) (faces : Typefaces) (width height : Nat) (layers : List Layer) :
    Except Fault Image :=
  paintLayers fs faces layers KeyMap.empty (Image.blank width height)

/-- The picture of a canvas. -/
def renderImage (fs : FileSystem) (c : Canvas) : Except Fault Image := do
  let faces ← loadFonts fs c.fonts.values KeyMap.empty
  renderLayers fs faces c.width c.height c.layers

end CanvasScript.Picture
