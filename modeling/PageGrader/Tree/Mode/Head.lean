import PageGrader.Text.Blank
import PageGrader.Tree.Adoption

namespace PageGrader.Tree.Builder

open Markup (Tag Token)

def headNames : List String :=
  ["base", "basefont", "bgsound", "link", "meta", "noframes", "script", "style", "template", "title"]

/-- End tags that stand for the missing start of what follows. -/
def skippingEnds : List String := ["head", "body", "html", "br"]

/-- A second root tag only adds the attributes that are missing. -/
def mergeRoot (b : Builder) (tag : Tag) : Builder :=
  match b.root with
  | some root =>
    if b.hasOpen "template" then b
    else { b with nodes := b.nodes.addAttributes root.id tag.attributes }
  | none => b

def readInitial (b : Builder) : Token → Builder × Next
  | .text s => if s.all Text.isMarkupSpace then (b, .done)
    else { b with tableInParagraph := true }.againIn .beforeHtml
  | .comment s => (b.addCommentTo 0 s, .done)
  | _ => { b with tableInParagraph := true }.againIn .beforeHtml

def readBeforeHtml (b : Builder) (token : Token) : Builder × Next :=
  let begin := (b.makeRoot []).againIn .beforeHead
  match token with
  | .comment s => (b.addCommentTo 0 s, .done)
  | .text s => if s.all Text.isMarkupSpace then (b, .done) else begin
  | .start tag =>
    if tag.name == "html" then (b.makeRoot tag.attributes).goto .beforeHead else begin
  | .finish name => if skippingEnds.contains name then begin else (b, .done)
  | _ => begin

def readBeforeHead (b : Builder) (token : Token) : Builder × Next :=
  let begin :=
    let b := b.insertImplied "head"
    { b with head := b.stack.head? }.againIn .inHead
  match token with
  | .text s => if s.all Text.isMarkupSpace then (b, .done) else begin
  | .comment s => (b.addComment s, .done)
  | .start tag =>
    if tag.name == "html" then (b.mergeRoot tag, .done)
    else if tag.name == "head" then
      let b := b.insert tag
      { b with head := b.stack.head? }.goto .inHead
    else begin
  | .finish name => if skippingEnds.contains name then begin else (b, .done)
  | _ => begin

def endTemplate (b : Builder) : Builder :=
  if b.hasOpen "template" then
    let b := ((b.closeImplied (·.mayStayOpenInTemplate)).popNamed "template").clearToMarker
    { b with templates := b.templates.drop 1 }.resetMode
  else b

/-- Start tags of elements that live in the head; `none` for any other. -/
def startInHead (b : Builder) (tag : Tag) : Option (Builder × Next) :=
  if ["base", "basefont", "bgsound", "link", "meta"].contains tag.name then
    some (b.insertVoid tag, .done)
  else if tag.name == "title" then some (b.openRaw tag .rcdata)
  else if ["noframes", "style"].contains tag.name then some (b.openRaw tag .rawtext)
  else if tag.name == "script" then some (b.openRaw tag .script)
  else if tag.name == "template" then
    let b := (b.insert tag).addMarker
    some ({ b with framesetOk := false, mode := .inTemplate, templates := .inTemplate :: b.templates },
      .done)
  else none

def readInHead (b : Builder) (token : Token) : Builder × Next :=
  let leave := b.pop.againIn .afterHead
  match token with
  | .text s => if s.all Text.isMarkupSpace then (b.addText (String.ofList s), .done) else leave
  | .comment s => (b.addComment s, .done)
  | .start tag =>
    if tag.name == "html" then (b.mergeRoot tag, .done)
    else if tag.name == "noscript" then b.openRaw tag .rawtext
    else if tag.name == "head" then (b, .done)
    else (b.startInHead tag).getD leave
  | .finish name =>
    if name == "head" then b.pop.goto .afterHead
    else if name == "template" then (b.endTemplate, .done)
    else if ["body", "html", "br"].contains name then leave
    else (b, .done)
  | _ => leave

def readAfterHead (b : Builder) (token : Token) : Builder × Next :=
  let begin := (b.insertImplied "body").againIn .inBody
  match token with
  | .text s => if s.all Text.isMarkupSpace then (b.addText (String.ofList s), .done) else begin
  | .comment s => (b.addComment s, .done)
  | .start tag =>
    if tag.name == "html" then (b.mergeRoot tag, .done)
    else if tag.name == "body" then { b.insert tag with framesetOk := false }.goto .inBody
    else if tag.name == "frameset" then (b.insert tag).goto .inFrameset
    else if tag.name == "head" then (b, .done)
    else match b.head, headNames.contains tag.name with
      | some head, true =>
        match { b with stack := head :: b.stack }.startInHead tag with
        | some (b, next) => (b.dropOpen head.id, next)
        | none => begin
      | _, _ => begin
  | .finish name =>
    if name == "template" then (b.endTemplate, .done)
    else if ["body", "html", "br"].contains name then begin
    else (b, .done)
  | _ => begin

end PageGrader.Tree.Builder
