import PageGrader.Finding
import PageGrader.Selector

namespace PageGrader

inductive Breakdown where
  /-- A selector could not be read. -/
  | selector (css : String)
  /-- The check was aborted, perhaps with a last message. -/
  | aborted (message : Option String)
  | other (message : String)
  deriving DecidableEq, Repr

def Breakdown.message : Breakdown → String
  | .selector css => "invalid selector `" ++ css ++ "`"
  | .aborted message => "rule panicked: " ++ message.getD "unknown panic"
  | .other message => message

abbrev Check := Document → List Char → Except Breakdown Outcome

/-- What has to be measured before a passing outcome is final. -/
inductive Refinement where
  | imageSizes
  deriving DecidableEq, Repr

structure Rule where
  criterion : Criterion
  check : Check
  refinement : Option Refinement := none

namespace Rule

def id (r : Rule) : String := r.criterion.id

end Rule

def Selector.read (css : String) : Except Breakdown Selector :=
  match Selector.read? css with
  | some sel => .ok sel
  | none => .error (.selector css)

/-- A way to read selectors: which sites a text asks for, if it is a selector. -/
abbrev Selector.Reader := String → Option (Site → Bool)

def Selector.plain : Selector.Reader := fun css => (Selector.read? css).map Selector.accepts

namespace Document

def ask (reader : Selector.Reader) (d : Document) (css : String) : Except Breakdown (List Site) :=
  match reader css with
  | some accepts => .ok (d.selecting accepts)
  | none => .error (.selector css)

def askFirst (reader : Selector.Reader) (d : Document) (css : String) :
    Except Breakdown (Option Site) :=
  (d.ask reader css).map List.head?

def query (d : Document) (css : String) : Except Breakdown (List Site) := d.ask Selector.plain css

def first? (d : Document) (css : String) : Except Breakdown (Option Site) :=
  d.askFirst Selector.plain css

theorem query_eq (d : Document) (css : String) : d.query css = (Selector.read css).map d.select := by
  unfold query ask Selector.plain Selector.read
  cases Selector.read? css <;> rfl

end Document

/-- The elements below a site that a selector accepts, in document order. -/
def Site.query (s : Site) (css : String) : Except Breakdown (List Site) :=
  (Selector.read css).map fun sel => s.descendants.filter sel.accepts

end PageGrader
