import PageGrader.Rule.FileName
import PageGrader.Rule.Hierarchy
import PageGrader.Rule.Landmark
import PageGrader.Rule.Media
import PageGrader.Rule.Metadata
import PageGrader.Rule.Navigation
import PageGrader.Rule.Placement
import PageGrader.Rule.Skeleton

namespace PageGrader

structure Registry where
  rules : List Rule := []

structure Duplicate where
  id : String
  deriving DecidableEq, Repr

def Duplicate.message (e : Duplicate) : String := "duplicate rule id " ++ e.id

namespace Registry

def empty : Registry := {}

def get? (r : Registry) (id : String) : Option Rule := r.rules.find? (·.id == id)

def size (r : Registry) : Nat := r.rules.length

def isEmpty (r : Registry) : Bool := r.rules.isEmpty

def register (r : Registry) (rule : Rule) : Except Duplicate Registry :=
  if (r.get? rule.id).isSome then .error ⟨rule.id⟩
  else .ok ⟨r.rules ++ [rule]⟩

def standard : Registry where
  rules :=
    [Rule.singleTop, Rule.listItems, Rule.targets, Rule.sources, Rule.buttons, Rule.tables,
     Rule.presentational, Rule.proportion, Rule.landmarks, Rule.fileNames, Rule.imageSizes,
     Rule.title, Rule.encoding, Rule.controls, Rule.pageNames, Rule.navigation, Rule.skeleton,
     Rule.closure, Rule.viewport, Rule.hierarchy, Rule.alternatives]

end Registry

end PageGrader
