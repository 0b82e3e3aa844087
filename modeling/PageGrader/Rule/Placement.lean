import PageGrader.Rule

namespace PageGrader.Rule

/-- Whether a list item stands anywhere but directly in an unordered list. -/
def outsideList (item : Site) : Bool :=
  match item.parent? with
  | some parent => parent.name != "ul"
  | none => true

def listItems : Rule where
  criterion := ⟨"li-in-ul", "LI inside UL", .error, 1, -2⟩
  check d _ := do
    let items ← d.query "li"
    let invalid := items.filter outsideList
    if invalid.isEmpty then
      let count := items.length
      return .pass s!"All LI elements ({count}) are inside UL elements." (d.handles items)
    else
      let count := invalid.length
      return .fail s!"{count} LI elements are not inside a UL."
        "Wrap every <li> in a <ul>. List items can't stand alone or sit inside an <ol>."
        (d.handles invalid)

def targets : Rule where
  criterion := ⟨"href-only-in-a", "href only on A tags", .error, 1, -2⟩
  check d _ := do
    let found ← d.query "[href]"
    let invalid := found.filter (·.name != "a")
    if invalid.isEmpty then
      let count := found.length
      return .pass s!"All href attributes ({count}) are on A elements." (d.handles found)
    else
      let count := invalid.length
      return .fail s!"{count} elements with href are not A tags."
        ("Use href only on <a> elements. " ++
          "Other elements take attributes such as src or data-*.")
        (d.handles invalid)

def lacksSource (image : Site) : Bool :=
  match image.attribute? "src" with
  | some source => source.isEmpty
  | none => true

def sources : Rule where
  criterion := ⟨"src-only-in-img", "src only on IMG", .error, 1, -2⟩
  check d _ := do
    let found ← d.query "[src]"
    let others := found.filter (·.name != "img")
    let bare := (← d.query "img").filter lacksSource
    if others.isEmpty && bare.isEmpty then
      return .pass "All src attributes are on valid IMG elements." (d.handles found)
    else
      let problems :=
        (if others.isEmpty then [] else [s!"{others.length} elements with src are not IMG"]) ++
        (if bare.isEmpty then [] else [s!"{bare.length} IMG elements without a valid src"])
      return .fail (", ".intercalate problems ++ ".")
        "Use src only on <img> elements, and give every <img> a valid, non-empty src."
        (d.handles others ++ d.handles bare)

def buttons : Rule where
  criterion := ⟨"buttons-in-forms", "Buttons inside forms", .error, 1, -2⟩
  check d _ := do
    let found ← d.query "button"
    let invalid := found.filter fun button => !button.hasAncestor "form"
    if invalid.isEmpty then
      let count := found.length
      return .pass s!"All buttons ({count}) are inside forms." (d.handles found)
    else
      let count := invalid.length
      return .fail s!"{count} buttons are not inside a FORM element."
        "Put every <button> inside a <form>, or use <a> elements for navigation."
        (d.handles invalid)

def tables : Rule where
  criterion := ⟨"no-tables", "Tables are not allowed", .error, 1, -2⟩
  check d _ := do
    let found ← d.query "table, thead, tbody, tfoot, tr, td, th"
    if found.isEmpty then
      return .pass "No table elements were used."
    else
      let count := found.length
      return .fail s!"Found {count} forbidden table elements."
        "Use CSS Grid or Flexbox for layout. Tables are only for real tabular data."
        (d.handles found)

def presentational : Rule where
  criterion := ⟨"no-visual-tags", "Avoid presentational tags", .error, 1, -2⟩
  check d _ := do
    let found ← d.query "u, b, i"
    if found.isEmpty then
      return .pass "No presentational tags (<u>, <b>, <i>) were used."
    else
      let count := found.length
      return .fail s!"Found {count} forbidden presentational tags."
        ("Style with CSS and use semantic tags: <strong> instead of <b>, <em> instead of <i>, " ++
          "CSS text-decoration for underlines.")
        (d.handles found)

end PageGrader.Rule
