import PageGrader.Rule

namespace PageGrader.Rule

def semantic : String :=
  "header, nav, main, section, article, aside, footer, figure, figcaption"

/-- Three generic elements are always allowed; more of them only with three tenths as many that have
a meaning. -/
def enoughMeaning (meaningful generic : Nat) : Bool :=
  generic ≤ 3 || 3 * generic ≤ 10 * meaningful

def proportion : Rule where
  criterion := ⟨"semantic-tags", "Prefer HTML5 semantic tags", .warning, 1, -1⟩
  check d _ := do
    let divs ← d.query "div"
    let spans ← d.query "span"
    let found ← d.query semantic
    let generic := divs.length + spans.length
    let meaningful := found.length
    if enoughMeaning meaningful generic then
      return .pass s!"Good use of semantic tags ({meaningful} semantic vs {generic} generic)."
        (d.handles found)
    else
      return .fail s!"Too many DIV/SPAN elements ({generic}) with few semantic tags ({meaningful})."
        ("Replace some <div> elements with semantic ones: <header>, <nav>, <main>, " ++
          "<section>, <article>, <aside>, <footer>.")
        (d.handles (divs.take 5))

def landmarkTags : List String := ["header", "nav", "main", "footer"]

def landmarks : Rule where
  criterion := ⟨"required-structure", "Required minimal structure", .error, 2, -3⟩
  check d _ := do
    let first ← landmarkTags.mapM fun tag => return (tag, ← d.first? tag)
    let found := first.filterMap (·.2)
    let missing := (first.filter (·.2.isNone)).map (·.1)
    if missing.isEmpty then
      return .pass "The document contains every required structural element." (d.handles found)
    else
      let names := ", ".intercalate missing
      let wanted := ", ".intercalate (missing.map fun tag => s!"<{tag}>")
      return .fail s!"Missing structural elements: {names}."
        s!"Add the missing elements: {wanted}. They are required for a correct semantic structure."
        (d.handles found)

end PageGrader.Rule
