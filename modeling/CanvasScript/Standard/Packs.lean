import CanvasScript.Command.Pack
import CanvasScript.Standard.Action

/-!
# The standard packs

* `core`: variables, which can be used everywhere.
* `canvas`: the command that creates canvases, and all that can be called within it.
* `registry`: the two packs, without what the settings switch off.
-/

namespace CanvasScript.Standard

open Canvas Command Settings

/-! ## Parameters -/

/-- A parameter that has to be given. -/
def needed (name : String) (kind : Kind) (description : String) : Parameter :=
  { name, kind, required := true, description }

/-- A parameter that may be left out, with what stands in for it. -/
def defaulted (name : String) (kind : Kind) (default : String) (description : String) :
    Parameter :=
  { name, kind, default? := some default, description }

/-- A parameter that may be left out. -/
def free (name : String) (kind : Kind) (description : String) : Parameter :=
  { name, kind, description }

/-- The position of a layer. -/
def position : List Parameter :=
  [needed "X" .integer "The X coordinate of the layer.",
    needed "Y" .integer "The Y coordinate of the layer."]

/-- The measures of a box. -/
def bounds : List Parameter :=
  [needed "Width" .integer "The width of the layer.",
    needed "Height" .integer "The height of the layer.",
    needed "Radius" .integer "The corner radius."]

/-- The style of a shape. -/
def style : List Parameter :=
  [defaulted "Filled" .boolean "true" "Whether the shape is filled.",
    defaulted "Stroke" .float "1" "The stroke width when not filled."]

/-- The identifier of a layer, kept exactly as it is given. -/
def layerId : Parameter :=
  { free "ID" .string "The ID of the layer." with verbatim := true }

/-- The identifier and the outline of a layer. -/
def identity : List Parameter :=
  [layerId, free "Outline Name" .string "The name of the outline to use."]

/-! ## Commands -/

/-- The name of the command that creates canvases. -/
def canvasScope : String := "$createCanvas"

/-- A command that can be called within a canvas. -/
def within (name : String) (action : Action) (description : String)
    (parameters : List Parameter) : Definition Action :=
  { name, action, description, parent? := some canvasScope, parameters }

/-- Commands for variables. -/
def variableCommands : List (Definition Action) :=
  [{ name := "$setVar", action := .setVariable
     description := "Stores a value for the rest of the evaluation."
     parameters :=
      [needed "Name" .string "The variable name.",
        free "Value" .unknown "The value to store."] },
    { name := "$getVar", action := .getVariable
      description := "Returns a stored value, or nothing when unset."
      parameters := [needed "Name" .string "The variable name."] }]

/-- Commands that open and finish canvases. -/
def canvases : List (Definition Action) :=
  [{ name := canvasScope, action := .createCanvas
     description := "Creates a canvas and runs the code inside it."
     parameters :=
      [needed "Width" .integer "The width of the canvas.",
        needed "Height" .integer "The height of the canvas.",
        free "Code" .script "The code to run."] },
    within "$renderCanvas" .renderCanvas "Renders the canvas to a PNG file."
      [needed "Path" .string "The path to save the canvas."]]

/-- Commands that add layers. -/
def layers : List (Definition Action) :=
  [within "$addArcLayer" .addArc "Adds an arc layer centred on X/Y."
      (position ++
        [needed "Radius" .integer "The radius of the arc.",
          needed "Color" .colour "The color of the arc."] ++
        style ++ identity ++
        [defaulted "Start Angle" .float "0"
            "Start angle in degrees, clockwise from the positive X axis.",
          defaulted "End Angle" .float "360" "End angle in degrees."]),
    within "$addCircleLayer" .addCircle
      "Adds a circle layer whose bounding box starts at X/Y."
      (position ++
        [needed "Radius" .integer "The radius of the circle.",
          needed "Color" .colour "The color of the circle."] ++
        style ++ identity),
    within "$addEllipseLayer" .addEllipse "Adds a rounded rectangle layer centred on X/Y."
      (position ++ bounds ++ [needed "Color" .colour "The color of the ellipse."] ++ style ++
        identity),
    within "$addEllipseImageLayer" .addEllipseImage
      "Adds an image clipped to a rounded rectangle centred on X/Y."
      (position ++ bounds ++ [needed "URL" .string "The URL of the image."] ++ identity),
    within "$addTextLayer" .addText "Adds a text layer with its baseline at X/Y."
      (position ++
        [needed "Font Name" .string "The font family of the text.",
          needed "Font Size" .float "The font size in pixels.",
          needed "Color" .colour "The color of the text.",
          needed "Text" .string "The text to display.",
          { defaulted "Align" .string "left" "The alignment of the text." with
            allowed? := some (TextAlign.all.map TextAlign.name) },
          layerId])]

/-- Commands for outlines and fonts. -/
def styles : List (Definition Action) :=
  [within "$createOutline" .createOutline
      "Creates a named outline that layers can reference."
      [needed "ID" .string "The ID of the outline.",
        { needed "Type" .string "Where the stroke sits relative to the edge." with
          allowed? := some (OutlineKind.all.map OutlineKind.name) },
        defaulted "Color" .colour "#FFFFFF" "The color of the outline.",
        defaulted "Alpha" .integer "100" "The opacity of the outline, 0 to 100.",
        defaulted "Stroke" .integer "1" "The stroke width of the outline."],
    within "$loadFont" .loadFont "Loads a font file for text layers."
      [needed "Family" .string "The font family.",
        needed "Path" .string "The path to the font file.",
        { defaulted "Weight" .string "regular" "The font weight." with
          allowed? := some (FontWeight.all.map FontWeight.name) }]]

/-! ## Packs -/

/-- Commands that can be used everywhere (`core_pack`). -/
def core : Pack Action := ⟨"core", variableCommands⟩

/-- The command that creates canvases and those scoped under it (`canvas_pack`). -/
def canvas : Pack Action := ⟨"canvas", canvases ++ layers ++ styles⟩

/-- The standard commands without those that the settings switch off. -/
def composition (config : Config) : Composition Action where
  base := [core]
  overrides := [canvas]
  disabled := config.disabled

/-- The registry of the standard commands under some settings (`default_registry`). -/
def registry (config : Config) : Except Fault (Registry Action) :=
  (composition config).build

end CanvasScript.Standard
