import PageGrader.Tree.Mode.Select

namespace PageGrader.Tree.Builder

open Markup (Token)

def readRawText (b : Builder) : Token → Builder × Next
  | .text s => (b.addText (String.ofList s), .done)
  | .finish _ => b.pop.goto b.resume
  | .eof => b.pop.againIn b.resume
  | _ => (b, .done)

/-- The first tag in a template says what kind of content it holds. -/
def templateAs (b : Builder) (mode : Mode) : Builder × Next :=
  { b with templates := mode :: b.templates.drop 1 }.againIn mode

def readInTemplate (b : Builder) (token : Token) : Builder × Next :=
  match token with
  | .text _ | .comment _ => b.readInBody token
  | .start tag =>
    let name := tag.name
    if headNames.contains name then (b.startInHead tag).getD (b, .done)
    else if ["caption", "colgroup", "tbody", "tfoot", "thead"].contains name then b.templateAs .inTable
    else if name == "col" then b.templateAs .inColumnGroup
    else if name == "tr" then b.templateAs .inTableBody
    else if name == "td" || name == "th" then b.templateAs .inRow
    else b.templateAs .inBody
  | .finish name => (if name == "template" then b.endTemplate else b, .done)
  | .eof => b.endOfTemplates
  | _ => (b, .done)

def readAfterBody (b : Builder) (token : Token) : Builder × Next :=
  match token with
  | .text s => if s.all Text.isMarkupSpace then b.readInBody token else b.againIn .inBody
  | .comment s => (b.addCommentTo ((b.root.map (·.id)).getD 0) s, .done)
  | .start tag => if tag.name == "html" then (b.mergeRoot tag, .done) else b.againIn .inBody
  | .finish name => if name == "html" then b.goto .afterAfterBody else b.againIn .inBody
  | .eof => (b, .done)
  | _ => b.againIn .inBody

def readAfterAfterBody (b : Builder) (token : Token) : Builder × Next :=
  match token with
  | .text s => if s.all Text.isMarkupSpace then b.readInBody token else b.againIn .inBody
  | .comment s => (b.addCommentTo 0 s, .done)
  | .start tag => if tag.name == "html" then (b.mergeRoot tag, .done) else b.againIn .inBody
  | .eof => (b, .done)
  | _ => b.againIn .inBody

def spaceOnly (b : Builder) (s : List Char) : Builder :=
  if s.all Text.isMarkupSpace then b.addText (String.ofList s) else b

def readInFrameset (b : Builder) : Token → Builder × Next
  | .text s => (b.spaceOnly s, .done)
  | .comment s => (b.addComment s, .done)
  | .start tag =>
    if tag.name == "html" then (b.mergeRoot tag, .done)
    else if tag.name == "frameset" then (b.insert tag, .done)
    else if tag.name == "frame" then (b.insertVoid tag, .done)
    else if tag.name == "noframes" then b.openRaw tag .rawtext
    else (b, .done)
  | .finish name =>
    if name == "frameset" && 1 < b.stack.length then
      let b := b.pop
      if b.currentNamed "frameset" then (b, .done) else b.goto .afterFrameset
    else (b, .done)
  | _ => (b, .done)

def readAfterFrameset (b : Builder) : Token → Builder × Next
  | .text s => (b.spaceOnly s, .done)
  | .comment s => (b.addComment s, .done)
  | .start tag =>
    if tag.name == "html" then (b.mergeRoot tag, .done)
    else if tag.name == "noframes" then b.openRaw tag .rawtext
    else (b, .done)
  | .finish name => if name == "html" then b.goto .afterAfterFrameset else (b, .done)
  | _ => (b, .done)

def readAfterAfterFrameset (b : Builder) (token : Token) : Builder × Next :=
  match token with
  | .text s => if s.all Text.isMarkupSpace then b.readInBody token else (b, .done)
  | .comment s => (b.addCommentTo 0 s, .done)
  | .start tag =>
    if tag.name == "html" then (b.mergeRoot tag, .done)
    else if tag.name == "noframes" then b.openRaw tag .rawtext
    else (b, .done)
  | _ => (b, .done)

end PageGrader.Tree.Builder
