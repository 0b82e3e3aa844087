import PageGrader.Handle
import PageGrader.Text.Shape

namespace PageGrader.Line

open Text (Shape Span)

/-- An opening of the tag: its name in any case and a character that ends the name. -/
def opening (tag : String) : Shape :=
  .sequence [.one (· == '<'), .caseless tag.toList,
    .one fun c => Text.isBlank c || c == '/' || c == '>']

/-- What follows the end mark of a comment, or nothing if the comment never ends. -/
def afterComment : List Char → List Char
  | '-' :: '-' :: '>' :: r => r
  | _ :: r => afterComment r
  | [] => []

def comment : Shape
  | '<' :: '!' :: '-' :: '-' :: r => some (afterComment r)
  | _ => none

def closingTag (tag : String) : Shape :=
  .sequence [.caseless ('<' :: '/' :: tag.toList), .blanks, .one (· == '>')]

/-- The first place where the shape stands: how many characters come before it, and what follows. -/
def first (shape : Shape) (passed : Nat) : List Char → Option (Nat × List Char)
  | [] => (shape []).map (passed, ·)
  | c :: r =>
    match shape (c :: r) with
    | some rest => some (passed, rest)
    | none => first shape (passed + 1) r

def textOpening (tag : String) : Shape :=
  .sequence [.caseless ('<' :: tag.toList), .wordEnd, .through '>']

def textElement (tag : String) : Shape := fun s =>
  (textOpening tag s).bind fun r => (first (closingTag tag) 0 r).map (·.2)

def contentOf (tag : String) (page : List Char) (span : Span) : Option Span :=
  (textOpening tag (page.drop span.start)).bind fun r =>
    (first (closingTag tag) 0 r).map fun (length, _) =>
      let start := page.length - r.length
      ⟨start, start + length⟩

def textTags : List String := ["script", "style", "textarea", "title"]

/-- The stretches of a page that openings are not looked for in. -/
def hidden (page : List Char) : List Span :=
  comment.spans page ++
    textTags.flatMap fun tag => ((textElement tag).spans page).filterMap (contentOf tag page)

def openings (tag : String) (page : List Char) : List Span :=
  let hidden := hidden page
  ((opening tag).spans page).filter fun s => !hidden.any (·.covers s.start)

/-- The line, counted from one, of the opening tag of an element. A document keeps no positions, so the
element with `n` of its tag before it is taken to be opened by the opening with `n` such openings before
it; comments and the content of elements that hold text are not counted. Names of any length are looked for; a
pattern for one of several hundred thousand letters would be too large to be built, and its elements would
have no line. -/
def find? (h : Handle) (page : List Char) : Option Nat :=
  (openings h.tag page)[h.occurrence]?.map fun s => (page.take s.start).count '\n' + 1

end PageGrader.Line
