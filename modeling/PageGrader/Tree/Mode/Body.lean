import PageGrader.Tree.Mode.Head

namespace PageGrader.Tree.Builder

open Markup (Tag Token Attribute)

def blockNames : List String :=
  ["address", "article", "aside", "blockquote", "center", "details", "dialog", "dir", "div", "dl",
   "fieldset", "figcaption", "figure", "footer", "header", "hgroup", "main", "menu", "nav", "ol", "p",
   "search", "section", "summary", "ul"]

def closableNames : List String :=
  ["address", "article", "aside", "blockquote", "button", "center", "details", "dialog", "dir", "div",
   "dl", "fieldset", "figcaption", "figure", "footer", "header", "hgroup", "listing", "main", "menu",
   "nav", "ol", "pre", "search", "section", "summary", "ul"]

def formattingNames : List String :=
  ["a", "b", "big", "code", "em", "font", "i", "nobr", "s", "small", "strike", "strong", "tt", "u"]

/-- Start tags that mean nothing outside a table or a frame set. -/
def misplacedNames : List String :=
  ["caption", "col", "colgroup", "frame", "head", "tbody", "td", "tfoot", "th", "thead", "tr"]

def isHidden (tag : Tag) : Bool :=
  (tag.attribute? "type").any (Text.sameLetters · "hidden")

def blockFrames (b : Builder) : Builder := { b with framesetOk := false }

/-- Text of the body; text other than white space rules out a frame set. -/
def textInBody (b : Builder) (s : List Char) : Builder :=
  let b := b.reconstruct
  let b := if s.all Text.isMarkupSpace then b else b.blockFrames
  b.addText (String.ofList s)

/-- A list item closes the item before it, as far as no other block is open in between. -/
def closeItem (b : Builder) (names : List String) : Builder :=
  let found := b.stack.find? fun e =>
    e.among names || (e.isSpecial && !e.among ["address", "div", "p"])
  match found with
  | some e => if e.among names then (b.closeImpliedExcept e.name).popNamed e.name else b
  | none => b

def startForm (b : Builder) (tag : Tag) : Builder :=
  if b.form.isSome && !b.hasOpen "template" then b
  else
    let b := b.closeParagraphInScope.insert tag
    if b.hasOpen "template" then b else { b with form := b.stack.head?.map (·.id) }

def startButton (b : Builder) (tag : Tag) : Builder :=
  let b := if b.has (·.endsScope) "button" then b.closeNamed "button" else b
  (b.reconstruct.insert tag).blockFrames

def startNoBreak (b : Builder) (tag : Tag) : Builder :=
  let b := b.reconstruct
  let b := if b.has (·.endsScope) "nobr" then (b.closeFormatting "nobr").reconstruct else b
  b.insertFormatting tag

/-- The body tag inside a body, and a frame set that takes the place of a body still empty. -/
def startBody (b : Builder) (tag : Tag) : Builder :=
  match b.body with
  | some body =>
    if b.hasOpen "template" then b
    else { b with framesetOk := false, nodes := b.nodes.addAttributes body.id tag.attributes }
  | none => b

def startFrameset (b : Builder) (tag : Tag) : Builder :=
  match b.framesetOk, b.body with
  | true, some body =>
    let b := { b with nodes := b.nodes.detach body.id, stack := b.root.toList }
    { b.insert tag with mode := .inFrameset }
  | _, _ => b

def startSelect (b : Builder) (tag : Tag) : Builder :=
  let b := (b.reconstruct.insert tag).blockFrames
  let inTable := [Mode.inTable, .inCaption, .inTableBody, .inRow, .inCell].contains b.mode
  { b with mode := if inTable then .inSelectInTable else .inSelect }

def foreignAttribute (a : Attribute) : Attribute :=
  match a.name.splitOn ":" with
  | ["xlink", name] =>
    if ["actuate", "arcrole", "href", "role", "show", "title", "type"].contains name then
      { a with name, space := .xlink }
    else a
  | ["xml", name] =>
    if ["lang", "space"].contains name then { a with name, space := .xml } else a
  | ["xmlns"] => { a with space := .xmlns }
  | ["xmlns", "xlink"] => { a with name := "xlink", space := .xmlns }
  | _ => a

def renamed (names : List String) (name : String) : String :=
  (names.find? fun n => Text.lowered n == name).getD name

def drawingAttributes : List String :=
  ["attributeName", "attributeType", "baseFrequency", "baseProfile", "calcMode", "clipPathUnits",
   "diffuseConstant", "edgeMode", "filterUnits", "glyphRef", "gradientTransform", "gradientUnits",
   "kernelMatrix", "kernelUnitLength", "keyPoints", "keySplines", "keyTimes", "lengthAdjust",
   "limitingConeAngle", "markerHeight", "markerUnits", "markerWidth", "maskContentUnits", "maskUnits",
   "numOctaves", "pathLength", "patternContentUnits", "patternTransform", "patternUnits",
   "pointsAtX", "pointsAtY", "pointsAtZ", "preserveAlpha", "preserveAspectRatio", "primitiveUnits",
   "refX", "refY", "repeatCount", "repeatDur", "requiredExtensions", "requiredFeatures",
   "specularConstant", "specularExponent", "spreadMethod", "startOffset", "stdDeviation",
   "stitchTiles", "surfaceScale", "systemLanguage", "tableValues", "targetX", "targetY", "textLength",
   "viewBox", "viewTarget", "xChannelSelector", "yChannelSelector", "zoomAndPan"]

def drawingNames : List String :=
  ["altGlyph", "altGlyphDef", "altGlyphItem", "animateColor", "animateMotion", "animateTransform",
   "clipPath", "feBlend", "feColorMatrix", "feComponentTransfer", "feComposite", "feConvolveMatrix",
   "feDiffuseLighting", "feDisplacementMap", "feDistantLight", "feDropShadow", "feFlood", "feFuncA",
   "feFuncB", "feFuncG", "feFuncR", "feGaussianBlur", "feImage", "feMerge", "feMergeNode",
   "feMorphology", "feOffset", "fePointLight", "feSpecularLighting", "feSpotLight", "feTile",
   "feTurbulence", "foreignObject", "glyphRef", "linearGradient", "radialGradient", "textPath"]

/-- Gives attributes the names they have in another vocabulary. -/
def foreignAttributes (space : Space) (attributes : List Attribute) : List Attribute :=
  let spelled (a : Attribute) : Attribute := match space with
    | .svg => { a with name := renamed drawingAttributes a.name }
    | .math => { a with name := renamed ["definitionURL"] a.name }
    | .html => a
  attributes.map fun a => foreignAttribute (spelled a)

def startForeign (b : Builder) (space : Space) (tag : Tag) : Builder :=
  let tag := { tag with attributes := foreignAttributes space tag.attributes }
  if tag.selfClosing then (b.insertClosed space tag).2 else (b.insertIn space tag).2

def startInBody (b : Builder) (tag : Tag) : Builder × Next :=
  let name := tag.name
  if name == "html" then (b.mergeRoot tag, .done)
  else if name == "noscript" then b.openRaw tag .rawtext
  else if headNames.contains name then (b.startInHead tag).getD (b, .done)
  else if name == "body" then (b.startBody tag, .done)
  else if name == "frameset" then (b.startFrameset tag, .done)
  else if blockNames.contains name then (b.closeParagraphInScope.insert tag, .done)
  else if headingNames.contains name then
    let b := b.closeParagraphInScope
    let b := if b.currentIs (·.among headingNames) then b.pop else b
    (b.insert tag, .done)
  else if name == "pre" || name == "listing" then
    let b := b.closeParagraphInScope.insert tag
    ({ b with skipsNewline := true, framesetOk := false }, .done)
  else if name == "form" then (b.startForm tag, .done)
  else if name == "li" || name == "dd" || name == "dt" then
    let b := b.blockFrames.closeItem (if name == "li" then ["li"] else ["dd", "dt"])
    (b.closeParagraphInScope.insert tag, .done)
  else if name == "plaintext" then (b.closeParagraphInScope.insert tag, .content .plaintext)
  else if name == "button" then (b.startButton tag, .done)
  else if name == "a" then (b.closeOuterLink.reconstruct.insertFormatting tag, .done)
  else if name == "nobr" then (b.startNoBreak tag, .done)
  else if formattingNames.contains name then (b.reconstruct.insertFormatting tag, .done)
  else if ["applet", "marquee", "object"].contains name then
    ((b.reconstruct.insert tag).addMarker.blockFrames, .done)
  else if name == "table" then
    let b := if b.tableInParagraph then b else b.closeParagraphInScope
    (b.insert tag).blockFrames.goto .inTable
  else if ["area", "br", "embed", "img", "keygen", "wbr", "input"].contains name then
    let b := b.reconstruct.insertVoid tag
    (if name == "input" && isHidden tag then b else b.blockFrames, .done)
  else if name == "image" then
    ((b.reconstruct.insertVoid { tag with name := "img" }).blockFrames, .done)
  else if ["param", "source", "track"].contains name then (b.insertVoid tag, .done)
  else if name == "hr" then ((b.closeParagraphInScope.insertVoid tag).blockFrames, .done)
  else if name == "textarea" then { b.blockFrames with skipsNewline := true }.openRaw tag .rcdata
  else if name == "xmp" then b.closeParagraphInScope.reconstruct.blockFrames.openRaw tag .rawtext
  else if name == "iframe" then b.blockFrames.openRaw tag .rawtext
  else if name == "noembed" then b.openRaw tag .rawtext
  else if name == "select" then (b.startSelect tag, .done)
  else if name == "optgroup" || name == "option" then
    let b := if b.currentNamed "option" then b.pop else b
    (b.reconstruct.insert tag, .done)
  else if name == "rb" || name == "rtc" then
    let b := if b.has (·.endsScope) "ruby" then b.closeImplied (·.mayStayOpen) else b
    (b.insert tag, .done)
  else if name == "rp" || name == "rt" then
    let b := if b.has (·.endsScope) "ruby" then b.closeImpliedExcept "rtc" else b
    (b.insert tag, .done)
  else if name == "math" then (b.startForeign .math tag, .done)
  else if name == "svg" then (b.startForeign .svg tag, .done)
  else if misplacedNames.contains name then (b, .done)
  else (b.reconstruct.insert tag, .done)

def finishForm (b : Builder) : Builder :=
  if b.hasOpen "template" then
    if b.has (·.endsScope) "form" then b.closeNamed "form" else b
  else match b.form with
    | none => b
    | some id =>
      let b := { b with form := none }
      if inScope (·.endsScope) (·.id == id) b.stack then
        (b.closeImplied (·.mayStayOpen)).dropOpen id
      else b

def finishInBody (b : Builder) (name : String) : Builder × Next :=
  if name == "template" then (b.endTemplate, .done)
  else if name == "body" then
    (if b.has (·.endsScope) "body" then { b with mode := .afterBody } else b, .done)
  else if name == "html" then
    if b.has (·.endsScope) "body" then b.againIn .afterBody else (b, .done)
  else if closableNames.contains name then
    (if b.has (·.endsScope) name then b.closeNamed name else b, .done)
  else if name == "form" then (b.finishForm, .done)
  else if name == "p" then
    let b := if b.has (·.endsButtonScope) "p" then b else b.insertImplied "p"
    (b.closeParagraph, .done)
  else if name == "li" || name == "dd" || name == "dt" then
    let ends := if name == "li" then Opened.endsListScope else Opened.endsScope
    (if b.has ends name then (b.closeImpliedExcept name).popNamed name else b, .done)
  else if headingNames.contains name then
    if inScope (·.endsScope) (·.among headingNames) b.stack then
      ((b.closeImplied (·.mayStayOpen)).popThrough (·.among headingNames), .done)
    else (b, .done)
  else if formattingNames.contains name then (b.closeFormatting name, .done)
  else if ["applet", "marquee", "object"].contains name then
    (if b.has (·.endsScope) name then (b.closeNamed name).clearToMarker else b, .done)
  else if name == "br" then ((b.reconstruct.insertVoid { name := "br" }).blockFrames, .done)
  else (b.closeGeneric name, .done)

/-- The end of the page closes the templates that are still open, one by one. -/
def endOfTemplates (b : Builder) : Builder × Next :=
  if b.hasOpen "template" then
    let b := (b.popNamed "template").clearToMarker
    ({ b with templates := b.templates.drop 1 }.resetMode, .again)
  else (b, .done)

def readInBody (b : Builder) : Token → Builder × Next
  | .text s => (b.textInBody s, .done)
  | .comment s => (b.addComment s, .done)
  | .start tag => b.startInBody tag
  | .finish name => b.finishInBody name
  | .eof => if b.templates.isEmpty then (b, .done) else b.endOfTemplates
  | _ => (b, .done)

/-- Reads a token as in the body, putting in front of a table what cannot stand in it. -/
def readFostered (b : Builder) (token : Token) : Builder × Next :=
  let (b, next) := { b with fosters := true }.readInBody token
  ({ b with fosters := false }, next)

end PageGrader.Tree.Builder
