import PageGrader.Image.Source

namespace PageGrader

structure Pending where
  slot : Nat
  sources : List Image.Source
  deriving DecidableEq, Repr

structure Execution where
  findings : List Finding := []
  pending : List Pending := []
  deriving DecidableEq, Repr

namespace Execution

def brokenDown : Outcome :=
  .fail "Internal error during validation." "Contact the instructor if this error persists."

def outcomeOf (rule : Rule) (d : Document) (page : List Char) : Outcome :=
  match rule.check d page with
  | .ok outcome => outcome
  | .error _ => brokenDown

def owed (rule : Rule) (d : Document) (outcome : Outcome) : Option (List Image.Source) :=
  if outcome.passed then
    match rule.refinement with
    | some .imageSizes => (Image.sources d).toOption
    | none => none
  else none

def step (d : Document) (page : List Char) (e : Execution) (rule : Rule) : Execution :=
  let outcome := outcomeOf rule d page
  { findings := e.findings ++ [⟨rule.criterion, outcome⟩]
    pending := e.pending ++
      ((owed rule d outcome).map fun sources => ⟨e.findings.length, sources⟩).toList }

def run (rules : List Rule) (d : Document) (page : List Char) : Execution :=
  rules.foldl (step d page) {}

end Execution

end PageGrader
