import PageGrader.Text.Shape

namespace PageGrader.Markup.Balance

open Text (Shape)

def voidTags : List String :=
  ["area", "base", "br", "col", "embed", "hr", "img", "input", "link", "meta", "param", "source",
   "track", "wbr"]

def isNameChar (c : Char) : Bool := c.isAlphanum || c == '-'

def anyOpening : Shape :=
  .sequence [.one (· == '<'), .one Char.isAlpha, .through '>']

def anyClosing : Shape :=
  .sequence [.one (· == '<'), .one (· == '/'), .one (· != '>'), .through '>']

def nameOf (tag : List Char) : List Char :=
  Text.lower ((tag.drop 1).takeWhile isNameChar)

def needsClosing (tag : List Char) : Bool :=
  !(['/', '>'].isSuffixOf tag) && !voidTags.any fun name => name.toList == nameOf tag

/-- How many closing tags the opening ones call for, and how many there are. -/
def tagBalance (page : List Char) : Nat × Nat :=
  ((((anyOpening.spans page).map (·.text page)).filter needsClosing).length,
    anyClosing.count page)

/-- An opening of the tag: after its name nothing, or white space or a slash and anything. -/
def opening (name : String) : Shape := fun s =>
  (Shape.caseless ('<' :: name.toList) s).bind fun
    | [] => none
    | c :: r =>
      if c == '>' then some r
      else if Text.isBlank c || c == '/' then Shape.through '>' r
      else none

/-- What follows the first `>`, if the character before it is a slash; `last` is the character before
the text. -/
def throughSlash (last : Char) : List Char → Option (List Char)
  | [] => none
  | c :: r =>
    if c == '>' then if last == '/' then some r else none
    else throughSlash c r

def selfClosing (name : String) : Shape := fun s =>
  (Shape.caseless ('<' :: name.toList) s).bind fun
    | [] => none
    | c :: r => if Text.isBlank c || c == '/' then throughSlash c r else none

def closing (name : String) : Shape :=
  .sequence [.caseless ('<' :: '/' :: name.toList), .blanks, .one (· == '>')]

/-- How often a tag is opened without closing itself, and how often it is closed. -/
def counts (name : String) (page : List Char) : Nat × Nat :=
  ((opening name).count page - (selfClosing name).count page, (closing name).count page)

end PageGrader.Markup.Balance
