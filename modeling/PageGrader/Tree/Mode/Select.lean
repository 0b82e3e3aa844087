import PageGrader.Tree.Mode.Table

namespace PageGrader.Tree.Builder

open Markup (Token)

def inSelectScope (b : Builder) : Bool := b.has (·.endsSelectScope) "select"

def popIfCurrent (b : Builder) (name : String) : Builder :=
  if b.currentNamed name then b.pop else b

def endSelect (b : Builder) : Builder :=
  if b.inSelectScope then (b.popNamed "select").resetMode else b

def readInSelect (b : Builder) (token : Token) : Builder × Next :=
  match token with
  | .text s => (b.addText (String.ofList s), .done)
  | .comment s => (b.addComment s, .done)
  | .start tag =>
    if tag.name == "html" then (b.mergeRoot tag, .done)
    else if tag.name == "option" then ((b.popIfCurrent "option").insert tag, .done)
    else if tag.name == "optgroup" then
      (((b.popIfCurrent "option").popIfCurrent "optgroup").insert tag, .done)
    else if tag.name == "select" then (b.endSelect, .done)
    else if ["input", "keygen", "textarea"].contains tag.name then
      if b.inSelectScope then (b.endSelect, .again) else (b, .done)
    else if ["script", "template"].contains tag.name then (b.startInHead tag).getD (b, .done)
    else (b, .done)
  | .finish name =>
    if name == "optgroup" then
      let inGroup := b.currentNamed "option" && (b.stack[1]?).any (·.named "optgroup")
      ((if inGroup then b.pop else b).popIfCurrent "optgroup", .done)
    else if name == "option" then (b.popIfCurrent "option", .done)
    else if name == "select" then (b.endSelect, .done)
    else if name == "template" then (b.endTemplate, .done)
    else (b, .done)
  | .eof => b.readInBody token
  | _ => (b, .done)

def tablePartNames : List String :=
  ["caption", "table", "tbody", "tfoot", "thead", "tr", "td", "th"]

def readInSelectInTable (b : Builder) (token : Token) : Builder × Next :=
  let leave := ((b.popNamed "select").resetMode, Next.again)
  match token with
  | .start tag => if tablePartNames.contains tag.name then leave else b.readInSelect token
  | .finish name =>
    if tablePartNames.contains name then
      if b.inTableScope name then leave else (b, .done)
    else b.readInSelect token
  | _ => b.readInSelect token

end PageGrader.Tree.Builder
