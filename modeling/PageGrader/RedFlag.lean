import PageGrader.Finding
import PageGrader.Text.Shape

namespace PageGrader

inductive RedFlag where
  | headers
  | nesting
  | closing
  deriving DecidableEq, Repr

namespace RedFlag

open Text (Shape)

def all : List RedFlag := [.headers, .nesting, .closing]

def id : RedFlag → String
  | headers => "malformed-headers"
  | nesting => "malformed-nesting"
  | closing => "malformed-closing"

def message : RedFlag → String
  | headers => "nested or unclosed heading tags"
  | nesting => "duplicated or badly nested tags"
  | closing => "several consecutive closing tags"

def heading : Shape :=
  .sequence [.caseless ['<', 'h'], .one fun c => '1' ≤ c && c ≤ '6', .through '>']

def opening (tag : String) : Shape :=
  .sequence [.caseless ('<' :: tag.toList), .wordEnd, .through '>']

def closingTag : Shape :=
  .sequence [.one (· == '<'), .one (· == '/'), .one (· != '>'), .through '>']

def twice (shape : Shape) : Shape := .sequence [shape, .blanks, shape]

def shapes : RedFlag → List Shape
  | headers => [twice heading]
  | nesting => ["div", "p", "span"].map fun tag => twice (opening tag)
  | closing => [twice closingTag]

def isRaised (page : List Char) (flag : RedFlag) : Bool :=
  flag.shapes.any (·.occurs page)

def finding (flag : RedFlag) : Finding where
  criterion := ⟨flag.id, "Malformed HTML detected", .error, 0, -5⟩
  outcome := .fail ("Critical: " ++ flag.message)
    "Review the HTML structure and make sure every tag is properly closed and nested."

def findings (page : List Char) : List Finding :=
  (all.filter (isRaised page)).map finding

end RedFlag

end PageGrader
