import PageGrader.Registry

namespace PageGrader.Registry

/-- What is done to a registry in place; a rule with an id that is taken aborts it. -/
abbrev Action := ExceptT Duplicate (StateM Registry)

/-- Adds a rule at the end. Its id is looked up before anything is changed. -/
def enrol (rule : Rule) : Action Unit := do
  if ((← get).get? rule.id).isSome then throw ⟨rule.id⟩
  modify fun r => ⟨r.rules ++ [rule]⟩

def setUp : Action Unit := do
  set empty
  standard.rules.forM enrol

inductive Step where
  | new
  | standard
  | default
  | register (rule : Rule)

def Step.action : Step → Action Unit
  | .new => set empty
  | .standard | .default => setUp
  | .register rule => enrol rule

def step (r : Registry) (s : Step) : Except Duplicate Unit × Registry := s.action.run.run r

/-- What is left after some steps, whichever of them were aborted. -/
def after (steps : List Step) : Registry := steps.foldl (fun r s => (r.step s).2) empty

end PageGrader.Registry
