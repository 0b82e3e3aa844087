import PageGrader.Rule

namespace PageGrader.Rule

namespace Navigation

inductive Reason where
  | noList
  | itemOutsideList
  | itemWithoutLink
  | directLink
  | linkOutsideItem
  deriving DecidableEq, Repr

def Reason.text : Reason → String
  | noList => "has no UL as a direct child"
  | itemOutsideList => "has LI elements that are not direct children of a UL"
  | itemWithoutLink => "has LI elements without a direct A link"
  | directLink => "has A links as direct children (they belong in an LI)"
  | linkOutsideItem => "has A links outside the UL > LI structure"

def hasChild (s : Site) (name : String) : Bool := s.children.any (·.name == name)

def isIn (s : Site) (name : String) : Bool := s.parent?.any (·.name == name)

def itemReasons (item : Site) : List Reason :=
  if !isIn item "ul" then [.itemOutsideList]
  else if !hasChild item "a" then [.itemWithoutLink]
  else []

def isListed (link : Site) : Bool :=
  link.parent?.any fun item => item.name == "li" && isIn item "ul"

def linkReasons (link : Site) : List Reason :=
  if isListed link then [] else [.linkOutsideItem]

/-- All reasons of one `nav`; one that holds twice is given twice. -/
def reasons (nav : Site) : Except Breakdown (List Reason) := do
  let items ← nav.query "li"
  let links ← nav.query "a"
  return (if hasChild nav "ul" then [] else [.noList]) ++ items.flatMap itemReasons ++
    (if hasChild nav "a" then [.directLink] else []) ++ links.flatMap linkReasons

end Navigation

def navigation : Rule where
  criterion := ⟨"nav-structure", "NAV > UL > LI > A structure", .error, 1, -2⟩
  check d _ := do
    let navs ← d.query "nav"
    if navs.isEmpty then
      return .pass "No NAV elements to check."
    else
      let judged ← navs.mapM fun nav => return (nav, ← Navigation.reasons nav)
      let invalid := judged.filter (!·.2.isEmpty)
      let total := navs.length
      if invalid.isEmpty then
        return .pass s!"All NAV elements ({total}) follow the NAV > UL > LI > A structure."
          (d.handles navs)
      else
        let count := invalid.length
        let reasons := "; ".intercalate (invalid.flatMap fun (_, reasons) => reasons.map (·.text))
        return .fail
          s!"{count} of {total} NAV elements do not follow the correct structure: {reasons}."
          ("NAV elements must follow the structure " ++
            "<nav><ul><li><a href=\"...\">Link</a></li></ul></nav>. " ++
            "Don't put links directly inside NAV.")
          (d.handles (invalid.map (·.1)))

end PageGrader.Rule
