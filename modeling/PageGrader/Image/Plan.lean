import PageGrader.Address
import PageGrader.Image.Source

namespace PageGrader.Image

inductive Obstacle where
  | withoutBase
  | notSecure
  | unstated
  | refused (reason : String)
  | late
  deriving DecidableEq, Repr

inductive Plan where
  | ask (url : String)
  | give (up : Obstacle)
  deriving DecidableEq, Repr

def secure : String := "https://"

def startsWith (start s : String) : Bool := start.toList.isPrefixOf s.toList

def planAbsolute (url : String) : Plan :=
  if startsWith secure url then .ask url else .give .notSecure

/-- The plan for a source. Empty sources and embedded data need none; `resolve` completes a relative
one, if that can be done. -/
def plan (resolve : String → Option String) (address : String) : Option Plan :=
  if address.isEmpty || startsWith "data:" address then none
  else if startsWith "//" address then some (planAbsolute ("https:" ++ address))
  else if startsWith "http://" address || startsWith secure address then some (planAbsolute address)
  else match resolve address with
    | some url => some (planAbsolute url)
    | none => some (.give .withoutBase)

/-- The text of an address, as far as it matters: one outside the web is not asked whatever follows its
scheme. -/
def textOf : Address → String
  | .web a => String.ofList a.text
  | .other scheme _ => String.ofList (scheme ++ [':'])

/-- A way to complete relative sources by a base, if there is one. -/
abbrev Resolver := Option String → String → Option String

/-- Resolves against a base, which has to be an address itself. -/
def resolver : Resolver := fun base address => do
  let base ← Address.read? (← base).toList
  return textOf (← Address.resolve? (some base) address.toList)

def plans (resolve : String → Option String) (sources : List Source) : List (Handle × Plan) :=
  sources.filterMap fun s => (plan resolve s.address).map (s.node, ·)

end PageGrader.Image
