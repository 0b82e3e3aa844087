import PageGrader.Tree.Nodes

namespace PageGrader.Tree

structure Opened where
  id : Nat
  space : Space
  name : String
  deriving DecidableEq, Repr

namespace Opened

def named (name : String) (e : Opened) : Bool :=
  e.space == .html && e.name == name

def among (names : List String) (e : Opened) : Bool :=
  e.space == .html && names.contains e.name

def isMathText (e : Opened) : Bool :=
  e.space == .math && ["mi", "mo", "mn", "ms", "mtext"].contains e.name

def isDrawingText (e : Opened) : Bool :=
  e.space == .svg && ["foreignObject", "desc", "title"].contains e.name

def endsScope (e : Opened) : Bool :=
  e.among ["applet", "caption", "html", "table", "td", "th", "marquee", "object", "template"] ||
    e.isMathText || e.isDrawingText

def endsListScope (e : Opened) : Bool :=
  e.endsScope || e.among ["ol", "ul"]

def endsButtonScope (e : Opened) : Bool :=
  e.endsScope || e.named "button"

def endsTableScope (e : Opened) : Bool :=
  e.among ["html", "table", "template"]

def endsSelectScope (e : Opened) : Bool :=
  !e.among ["optgroup", "option"]

/-- Elements that end the search for a matching inline element. -/
def isSpecial (e : Opened) : Bool :=
  e.among ["address", "applet", "area", "article", "aside", "base", "basefont", "bgsound",
    "blockquote", "body", "br", "button", "caption", "center", "col", "colgroup", "dd", "details",
    "dir", "div", "dl", "dt", "embed", "fieldset", "figcaption", "figure", "footer", "form", "frame",
    "frameset", "h1", "h2", "h3", "h4", "h5", "h6", "head", "header", "hgroup", "hr", "html",
    "iframe", "img", "input", "isindex", "li", "link", "listing", "main", "marquee", "menu", "meta",
    "nav", "noembed", "noframes", "noscript", "object", "ol", "p", "param", "plaintext", "pre",
    "script", "section", "select", "source", "style", "summary", "table", "tbody", "td", "template",
    "textarea", "tfoot", "th", "thead", "title", "tr", "track", "ul", "wbr", "xmp"]

def mayStayOpen (e : Opened) : Bool :=
  e.among ["dd", "dt", "li", "option", "optgroup", "p", "rb", "rp", "rt", "rtc"]

def mayStayOpenInTemplate (e : Opened) : Bool :=
  e.mayStayOpen ||
    e.among ["caption", "colgroup", "tbody", "td", "tfoot", "th", "thead", "tr"]

end Opened

def headingNames : List String := ["h1", "h2", "h3", "h4", "h5", "h6"]

/-- Whether an element that is `wanted` is open inside every element that ends the scope. -/
def inScope (ends wanted : Opened → Bool) : List Opened → Bool
  | [] => false
  | e :: outer => wanted e || (!ends e && inScope ends wanted outer)

/-- The open elements outside the innermost one that is `wanted`. -/
def outside (wanted : Opened → Bool) : List Opened → List Opened
  | [] => []
  | e :: outer => if wanted e then outer else outside wanted outer

end PageGrader.Tree
