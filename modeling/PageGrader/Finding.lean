import PageGrader.Handle

namespace PageGrader

inductive Severity where
  | error
  | warning
  deriving DecidableEq, Repr

def Severity.text : Severity → String
  | .error => "error"
  | .warning => "warning"

/-- The fixed part of a rule: what it is called and what keeping or breaking it is worth. -/
structure Criterion where
  id : String
  title : String
  severity : Severity := .error
  reward : Int
  penalty : Int
  deriving DecidableEq, Repr

/-- The result of a rule on one page. `evidence` names the elements it is about. -/
structure Outcome where
  passed : Bool
  evidence : List Handle := []
  message : String
  suggestion : Option String
  deriving DecidableEq, Repr

namespace Outcome

def pass (message : String) (evidence : List Handle := []) : Outcome :=
  ⟨true, evidence, message, none⟩

def fail (message suggestion : String) (evidence : List Handle := []) : Outcome :=
  ⟨false, evidence, message, some suggestion⟩

end Outcome

structure Finding where
  criterion : Criterion
  outcome : Outcome
  deriving DecidableEq, Repr

namespace Finding

def id (f : Finding) : String := f.criterion.id

def passed (f : Finding) : Bool := f.outcome.passed

def points (f : Finding) : Int :=
  if f.passed then f.criterion.reward else f.criterion.penalty

end Finding

end PageGrader
