import StyleAudit.Markup.Adoption

/-!
# Rules for drawings and formulas

Inside `svg` and `math`, tags name elements of other vocabularies. Their names may have
capitals, a tag may close itself, and some HTML tags end the foreign part.

- `enterForeign`: the tags `svg` and `math` themselves.
- `Builder.isForeign`: whether a token is subject to these rules.
- `inForeign`: the rules; none where the current mode is to decide.
-/

namespace StyleAudit.Markup

/-- Drawing elements whose names have capitals. -/
def drawingTags : List String :=
  ["altGlyph", "altGlyphDef", "altGlyphItem", "animateColor", "animateMotion",
    "animateTransform", "clipPath", "feBlend", "feColorMatrix", "feComponentTransfer",
    "feComposite", "feConvolveMatrix", "feDiffuseLighting", "feDisplacementMap",
    "feDistantLight", "feDropShadow", "feFlood", "feFuncA", "feFuncB", "feFuncG", "feFuncR",
    "feGaussianBlur", "feImage", "feMerge", "feMergeNode", "feMorphology", "feOffset",
    "fePointLight", "feSpecularLighting", "feSpotLight", "feTile", "feTurbulence",
    "foreignObject", "glyphRef", "linearGradient", "radialGradient", "textPath"]

/-- Drawing attributes whose names have capitals. -/
def drawingAttributes : List String :=
  ["attributeName", "attributeType", "baseFrequency", "baseProfile", "calcMode",
    "clipPathUnits", "diffuseConstant", "edgeMode", "filterUnits", "glyphRef",
    "gradientTransform", "gradientUnits", "kernelMatrix", "kernelUnitLength", "keyPoints",
    "keySplines", "keyTimes", "lengthAdjust", "limitingConeAngle", "markerHeight",
    "markerUnits", "markerWidth", "maskContentUnits", "maskUnits", "numOctaves", "pathLength",
    "patternContentUnits", "patternTransform", "patternUnits", "pointsAtX", "pointsAtY",
    "pointsAtZ", "preserveAlpha", "preserveAspectRatio", "primitiveUnits", "refX", "refY",
    "repeatCount", "repeatDur", "requiredExtensions", "requiredFeatures", "specularConstant",
    "specularExponent", "spreadMethod", "startOffset", "stdDeviation", "stitchTiles",
    "surfaceScale", "systemLanguage", "tableValues", "targetX", "targetY", "textLength",
    "viewBox", "viewTarget", "xChannelSelector", "yChannelSelector", "zoomAndPan"]

/-- The listed spelling of a small-letter name; the name itself if it is not listed. -/
def respelled (listed : List String) (name : String) : String :=
  (listed.find? fun spelling => Text.lower spelling.toList == name.toList).getD name

/-- Attributes of foreign elements that have a namespace: its label and the name in it. -/
def spacedAttributes : List (String × String × String) :=
  [("xlink:actuate", "xlink", "actuate"), ("xlink:arcrole", "xlink", "arcrole"),
    ("xlink:href", "xlink", "href"), ("xlink:role", "xlink", "role"),
    ("xlink:show", "xlink", "show"), ("xlink:title", "xlink", "title"),
    ("xlink:type", "xlink", "type"), ("xml:lang", "xml", "lang"),
    ("xml:space", "xml", "space"), ("xmlns", "xmlns", "xmlns"),
    ("xmlns:xlink", "xmlns", "xlink")]

/-- An attribute as it is named in a namespace. -/
def foreignAttribute (space : Space) (a : Attribute) : Attribute :=
  let name :=
    match space with
    | .svg => respelled drawingAttributes a.name
    | .math => respelled ["definitionURL"] a.name
    | .html => a.name
  match spacedAttributes.lookup name with
  | some (label, localName) => ⟨label, localName, a.value⟩
  | none => { a with name }

/-- Add a foreign element. -/
def addForeign (space : Space) (tag : Tag) : Build Outcome := do
  let name := if space == .svg then respelled drawingTags tag.name else tag.name
  let _ ← addElement ⟨space, name⟩ (tag.attributes.map (foreignAttribute space))
  if tag.selfClosing then closeCurrent
  return .done

/-- The namespace of the innermost open element. -/
def Builder.currentSpace (b : Builder) : Space :=
  ((b.store.name? b.current).map Name.space).getD .html

/-- HTML tags that end the foreign part they stand in. -/
def breakoutTags : List String :=
  ["b", "big", "blockquote", "body", "br", "center", "code", "dd", "div", "dl", "dt", "em",
    "embed", "h1", "h2", "h3", "h4", "h5", "h6", "head", "hr", "i", "img", "li", "listing",
    "menu", "meta", "nobr", "ol", "p", "pre", "ruby", "s", "small", "span", "strong", "strike",
    "sub", "sup", "table", "tt", "u", "ul", "var"]

/-- Whether a tag ends the foreign part it stands in. -/
def breaksOut (tag : Tag) : Bool :=
  breakoutTags.contains tag.name ||
    (tag.name == "font" &&
      tag.attributes.any fun a => ["color", "face", "size"].contains a.name)

/-- Whether a token is subject to the rules for foreign content. -/
def Builder.isForeign (b : Builder) (token : Token) : Bool :=
  match b.store.name? b.current with
  | none => false
  | some name =>
    if name.space == .html then false
    else
      match token with
      | .ending => false
      | .blank _ | .text _ | .null => !(isFormulaText name || isDrawingMarkup name)
      | .openTag tag =>
        !((isFormulaText name && tag.name != "mglyph" && tag.name != "malignmark") ||
          isDrawingMarkup name ||
          (name == ⟨.math, "annotation-xml"⟩ && tag.name == "svg"))
      | _ => true

/-- Close foreign elements until HTML rules apply. -/
def leaveForeign : Build Unit := modify fun b =>
  let isInside (id : Nat) : Bool :=
    (b.store.name? id).any fun name =>
      name.space != .html && !isFormulaText name && !isDrawingMarkup name
  { b with openIds := b.openIds.dropWhile isInside }

/-- The open elements after an end tag in foreign content; none if an HTML element is
reached first, whose rules then apply. The root is never closed. -/
def Builder.closeForeign? (b : Builder) (name : String) (first : Bool) :
    List Nat → Option (List Nat)
  | id :: outer@(_ :: _) =>
    match b.store.name? id with
    | some found =>
      if !first && found.space == .html then none
      else if Text.sameIgnoringCase found.tag.toList name.toList then some outer
      else b.closeForeign? name false outer
    | none => b.closeForeign? name false outer
  | _ => some b.openIds

/-- The rules for foreign content. None if the current mode is to handle the token. -/
def inForeign (token : Token) : Build (Option Outcome) := do
  match token with
  | .null => addText [Text.replacement]
  | .blank text => addText text
  | .text text => forbidFrameset; addText text
  | .openTag tag =>
    if breaksOut tag then
      leaveForeign
      return none
    return some (← addForeign (← get).currentSpace tag)
  | .closeTag name =>
    if name == "br" || name == "p" then
      leaveForeign
      return none
    let b ← get
    match b.closeForeign? name true b.openIds with
    | some openIds => set { b with openIds }
    | none => return none
  | _ => pure ()
  return some .done

end StyleAudit.Markup
