import PageGrader.Markup.Balance
import PageGrader.Rule

namespace PageGrader.Rule

open Text (Shape)
open Markup

namespace Skeleton

inductive Defect where
  | noDoctype
  | lacks (tag : String)
  | headAfterBody
  | unbalanced
  deriving DecidableEq, Repr

def Defect.text : Defect → String
  | noDoctype => "missing DOCTYPE html declaration"
  | lacks tag => s!"missing <{tag}> element"
  | headAfterBody => "<head> must come before <body>"
  | unbalanced => "possibly unclosed or malformed tags"

def declaresType (page : List Char) : Bool :=
  "<!doctype html>".toList.isPrefixOf (Text.lower (Text.trim page))

def written (tag : String) : Shape :=
  .sequence [.caseless ('<' :: tag.toList), .one fun c => Text.isBlank c || c == '>']

def headAfterBody (page : List Char) : Bool :=
  match (written "head").position? page, (written "body").position? page with
  | some head, some body => body < head
  | _, _ => false

def isUnbalanced (page : List Char) : Bool :=
  let (expected, present) := Balance.tagBalance page
  present + 2 < expected || expected + 2 < present

def part (d : Document) (page : List Char) (tag : String) : Except Breakdown (Option Site) := do
  return (← d.first? tag).filter fun _ => (written tag).occurs page

end Skeleton

open Skeleton in
def skeleton : Rule where
  criterion := ⟨"html-structure", "Valid basic HTML structure", .error, 2, -5⟩
  check d page := do
    let parts ← ["html", "head", "body"].mapM fun tag => return (tag, ← part d page tag)
    let defects : List Defect :=
      (if declaresType page then [] else [.noDoctype]) ++
      (parts.filter (·.2.isNone)).map (fun (tag, _) => .lacks tag) ++
      (if headAfterBody page then [.headAfterBody] else []) ++
      (if isUnbalanced page then [.unbalanced] else [])
    if defects.isEmpty then
      return .pass "The basic HTML structure is valid." (d.handles (parts.filterMap (·.2)))
    else
      let text := ", ".intercalate (defects.map (·.text))
      return .fail s!"Critical: {text}."
        ("Make sure the document is well formed, with <!DOCTYPE html>, <html>, <head> and " ++
          "<body> in the right order.")

/-- The tags that have to be closed as often as they are opened. -/
def closedTags : List String :=
  ["h1", "h2", "h3", "h4", "h5", "h6", "p", "div", "span", "a", "header", "nav", "main",
   "footer", "section", "article", "aside", "ul", "ol", "li"]

/-- A tag that is not closed as often as it is opened, with both counts. -/
structure Mismatch where
  tag : String
  opened : Nat
  closed : Nat
  deriving DecidableEq, Repr

def Mismatch.text (m : Mismatch) : String :=
  let ⟨tag, opened, closed⟩ := m
  s!"<{tag}>: {opened} opened, {closed} closed"

def mismatches (page : List Char) : List Mismatch :=
  (closedTags.map fun tag =>
    let (opened, closed) := Balance.counts tag page
    ⟨tag, opened, closed⟩).filter fun m => m.opened != m.closed

def closure : Rule where
  criterion := ⟨"closed-tags", "Correctly closed tags", .error, 1, -3⟩
  check _ page :=
    let found := mismatches page
    if found.isEmpty then
      .ok (.pass "Tags are correctly closed.")
    else
      let first := ", ".intercalate ((found.take 3).map (·.text))
      let more := if 3 < found.length then "..." else ""
      .ok (.fail s!"Badly closed tags - {first}{more}."
        ("Check that every opening tag has a matching closing tag. An editor with syntax " ++
          "highlighting helps spot these."))

end PageGrader.Rule
