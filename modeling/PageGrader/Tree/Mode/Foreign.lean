import PageGrader.Tree.Mode.Ending

namespace PageGrader.Tree.Builder

open Markup (Tag Token)

/-- Start tags that close every drawing and formula around them. -/
def breakingNames : List String :=
  ["b", "big", "blockquote", "body", "br", "center", "code", "dd", "div", "dl", "dt", "em", "embed",
   "h1", "h2", "h3", "h4", "h5", "h6", "head", "hr", "i", "img", "li", "listing", "menu", "meta",
   "nobr", "ol", "p", "pre", "ruby", "s", "small", "span", "strong", "strike", "sub", "sup", "table",
   "tt", "u", "ul", "var"]

def breaksOut (tag : Tag) : Bool :=
  breakingNames.contains tag.name ||
    (tag.name == "font" && ["color", "face", "size"].any fun a => (tag.attribute? a).isSome)

def holdsMarkup (e : Opened) : Bool :=
  e.space == .html || e.isMathText || e.isDrawingText

/-- Whether the token is read by the rules for drawings and mathematics. -/
def readsForeign (b : Builder) (token : Token) : Bool :=
  match b.stack.head? with
  | none => false
  | some e =>
    if e.space == .html then false
    else match token with
      | .eof => false
      | .text _ | .null => !(e.isMathText || e.isDrawingText)
      | .start tag =>
        !(e.isDrawingText || (e.isMathText && tag.name != "mglyph" && tag.name != "malignmark") ||
          (e.space == .math && e.name == "annotation-xml" && tag.name == "svg"))
      | _ => true

/-- An element inside a drawing or a formula, in the vocabulary of its parent. -/
def startInForeign (b : Builder) (tag : Tag) : Builder :=
  match b.stack.head? with
  | none => b
  | some e =>
    let name := if e.space == .svg then renamed drawingNames tag.name else tag.name
    b.startForeign e.space { tag with name }

/-- The tokens of drawings and mathematics; `none` for those that the current mode reads. An end tag
closes the innermost foreign element of its name in any letter case, unless an HTML element comes
first. -/
def readForeign (b : Builder) : Token → Builder × Option Next
  | .null => (b.addText "\ufffd", some .done)
  | .text s =>
    let b := if s.all Text.isMarkupSpace then b else b.blockFrames
    (b.addText (String.ofList s), some .done)
  | .comment s => (b.addComment s, some .done)
  | .start tag =>
    if breaksOut tag then (b.popUntil holdsMarkup, none) else (b.startInForeign tag, some .done)
  | .finish name =>
    if name == "br" || name == "p" then (b.popUntil holdsMarkup, none)
    else
      let fits (e : Opened) : Bool := Text.sameLetters e.name name
      if (b.stack.takeWhile (·.space != .html)).any fits then (b.popThrough fits, some .done)
      else (b, none)
  | _ => (b, some .done)

end PageGrader.Tree.Builder
