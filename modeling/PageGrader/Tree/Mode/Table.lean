import PageGrader.Tree.Mode.Body

namespace PageGrader.Tree.Builder

open Markup (Tag Token)

def strayTableEnds : List String :=
  ["body", "caption", "col", "colgroup", "html", "tbody", "td", "tfoot", "th", "thead", "tr"]

def sectionNames : List String := ["tbody", "tfoot", "thead"]

def toTable (b : Builder) : Builder := b.popUntil (·.endsTableScope)

def toSection (b : Builder) : Builder :=
  b.popUntil (·.among ["tbody", "tfoot", "thead", "template", "html"])

def toRow (b : Builder) : Builder := b.popUntil (·.among ["tr", "template", "html"])

def inTableScope (b : Builder) (name : String) : Bool := b.has (·.endsTableScope) name

def textInTable (b : Builder) (token : Token) : Builder × Next :=
  if b.currentIs (·.among ["table", "tbody", "tfoot", "thead", "tr"]) then
    ({ b with resume := b.mode, mode := .inTableText }, .again)
  else b.readFostered token

def startInTable (b : Builder) (tag : Tag) : Builder × Next :=
  let name := tag.name
  if name == "caption" then (b.toTable.addMarker.insert tag).goto .inCaption
  else if name == "colgroup" then (b.toTable.insert tag).goto .inColumnGroup
  else if name == "col" then (b.toTable.insertImplied "colgroup").againIn .inColumnGroup
  else if sectionNames.contains name then (b.toTable.insert tag).goto .inTableBody
  else if ["td", "th", "tr"].contains name then (b.toTable.insertImplied "tbody").againIn .inTableBody
  else if name == "table" then
    if b.inTableScope "table" then ((b.popNamed "table").resetMode, .again) else (b, .done)
  else if ["style", "script", "template"].contains name then (b.startInHead tag).getD (b, .done)
  else if name == "input" && isHidden tag then (b.insertVoid tag, .done)
  else if name == "form" then
    if b.hasOpen "template" || b.form.isSome then (b, .done)
    else
      let (e, b) := b.insertClosed .html tag
      ({ b with form := some e.id }, .done)
  else b.readFostered (.start tag)

def readInTable (b : Builder) (token : Token) : Builder × Next :=
  match token with
  | .text _ | .null => b.textInTable token
  | .comment s => (b.addComment s, .done)
  | .start tag => b.startInTable tag
  | .finish name =>
    if name == "table" then
      (if b.inTableScope "table" then (b.popNamed "table").resetMode else b, .done)
    else if strayTableEnds.contains name then (b, .done)
    else if name == "template" then (b.endTemplate, .done)
    else b.readFostered token
  | .eof => b.readInBody token
  | _ => (b, .done)

/-- Text held back in a table: white space stays, anything else goes in front of the table. -/
def releaseText (b : Builder) : Builder :=
  let held := b.tableText.reverse
  let b := { b with tableText := [] }
  if held.all (·.2) then held.foldl (fun b (s, _) => b.addText s) b
  else held.foldl (fun b (s, _) => (b.readFostered (.text s.toList)).1) b

def readInTableText (b : Builder) (token : Token) : Builder × Next :=
  match token with
  | .null => (b, .done)
  | .text s =>
    ({ b with tableText := (String.ofList s, s.all Text.isMarkupSpace) :: b.tableText }, .done)
  | _ => b.releaseText.againIn b.resume

def endCaption (b : Builder) : Builder :=
  { (b.closeNamed "caption").clearToMarker with mode := .inTable }

def readInCaption (b : Builder) (token : Token) : Builder × Next :=
  let leave := if b.inTableScope "caption" then (b.endCaption, Next.again) else (b, .done)
  match token with
  | .start tag =>
    if ["caption", "col", "colgroup", "tbody", "td", "tfoot", "th", "thead", "tr"].contains tag.name
    then leave
    else b.readInBody token
  | .finish name =>
    if name == "caption" then (if b.inTableScope "caption" then b.endCaption else b, .done)
    else if name == "table" then leave
    else if strayTableEnds.contains name then (b, .done)
    else b.readInBody token
  | _ => b.readInBody token

def readInColumnGroup (b : Builder) (token : Token) : Builder × Next :=
  let leave := if b.currentNamed "colgroup" then b.pop.againIn .inTable else (b, .done)
  match token with
  | .text s => if s.all Text.isMarkupSpace then (b.addText (String.ofList s), .done) else leave
  | .comment s => (b.addComment s, .done)
  | .start tag =>
    if tag.name == "html" then (b.mergeRoot tag, .done)
    else if tag.name == "col" then (b.insertVoid tag, .done)
    else if tag.name == "template" then (b.startInHead tag).getD leave
    else leave
  | .finish name =>
    if name == "colgroup" then
      if b.currentNamed "colgroup" then b.pop.goto .inTable else (b, .done)
    else if name == "col" then (b, .done)
    else if name == "template" then (b.endTemplate, .done)
    else leave
  | .eof => b.readInBody token
  | _ => leave

def readInTableBody (b : Builder) (token : Token) : Builder × Next :=
  let leave :=
    if inScope (·.endsTableScope) (·.among ["table", "tbody", "tfoot"]) b.stack then
      b.toSection.pop.againIn .inTable
    else (b, .done)
  match token with
  | .start tag =>
    if tag.name == "tr" then (b.toSection.insert tag).goto .inRow
    else if tag.name == "th" || tag.name == "td" then
      (b.toSection.insertImplied "tr").againIn .inRow
    else if ["caption", "col", "colgroup", "tbody", "tfoot", "thead"].contains tag.name then leave
    else b.readInTable token
  | .finish name =>
    if sectionNames.contains name then
      if b.inTableScope name then b.toSection.pop.goto .inTable else (b, .done)
    else if name == "table" then leave
    else if strayTableEnds.contains name then (b, .done)
    else b.readInTable token
  | _ => b.readInTable token

def readInRow (b : Builder) (token : Token) : Builder × Next :=
  let leave := if b.inTableScope "tr" then b.toRow.pop.againIn .inTableBody else (b, .done)
  match token with
  | .start tag =>
    if tag.name == "th" || tag.name == "td" then
      (b.toRow.insert tag).addMarker.goto .inCell
    else if ["caption", "col", "colgroup", "tbody", "tfoot", "thead", "tr"].contains tag.name then leave
    else b.readInTable token
  | .finish name =>
    if name == "tr" then
      if b.inTableScope "tr" then b.toRow.pop.goto .inTableBody else (b, .done)
    else if name == "table" then leave
    else if sectionNames.contains name then
      if b.inTableScope name then leave else (b, .done)
    else if strayTableEnds.contains name then (b, .done)
    else b.readInTable token
  | _ => b.readInTable token

def endCell (b : Builder) : Builder :=
  let b := (b.closeImplied (·.mayStayOpen)).popThrough (·.among ["td", "th"])
  { b.clearToMarker with mode := .inRow }

def readInCell (b : Builder) (token : Token) : Builder × Next :=
  match token with
  | .start tag =>
    if ["caption", "col", "colgroup", "tbody", "td", "tfoot", "th", "thead", "tr"].contains tag.name
    then
      if inScope (·.endsTableScope) (·.among ["td", "th"]) b.stack then (b.endCell, .again)
      else (b, .done)
    else b.readInBody token
  | .finish name =>
    if name == "td" || name == "th" then
      if b.inTableScope name then (b.closeNamed name).clearToMarker.goto .inRow else (b, .done)
    else if ["body", "caption", "col", "colgroup", "html"].contains name then (b, .done)
    else if ["table", "tbody", "tfoot", "thead", "tr"].contains name then
      if b.inTableScope name then (b.endCell, .again) else (b, .done)
    else b.readInBody token
  | _ => b.readInBody token

end PageGrader.Tree.Builder
