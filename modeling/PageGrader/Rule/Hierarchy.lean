import PageGrader.Heading
import PageGrader.Rule

namespace PageGrader.Rule

def singleTop : Rule where
  criterion := ⟨"unique-h1", "Single H1 per document", .error, 1, -2⟩
  check d _ := do
    let found ← d.query "h1"
    match found.length with
    | 0 =>
      return .fail "No <h1> element found. The document must have exactly one <h1>."
        "Add an <h1> element containing the main title of the document."
    | 1 => return .pass "The document has exactly one <h1> element." (d.handles found)
    | count =>
      return .fail s!"Found {count} <h1> elements. There must be only one."
        "Use <h2>, <h3>, etc. for subtitles. The <h1> must be unique and hold the main title."
        (d.handles found)

namespace Hierarchy

def headings : String := "h1, h2, h3, h4, h5, h6"

inductive Problem where
  | startsAt (level : Nat)
  | lateTop
  | beforeTop (level : Nat)
  | skips (level previous : Nat)
  | headerWithoutTop
  | headerMixed
  | headerTops (count : Nat)
  | navHeadings (count : Nat)
  | navItems
  | navWithoutList
  | mainBefore (name : String)
  | footerBefore (name : String)
  deriving DecidableEq, Repr

def Problem.text : Problem → String
  | startsAt level => s!"the first heading is <h{level}> instead of <h1>"
  | lateTop => "<h1> is not the first heading of the document"
  | beforeTop level => s!"<h{level}> appears before any <h1>"
  | skips level previous =>
    let between := previous + 1
    s!"<h{level}> follows <h{previous}>, skipping <h{between}>"
  | headerWithoutTop => "a <header> contains <h2>-<h6> headings without an <h1>"
  | headerMixed => "a <header> mixes its <h1> with other heading levels"
  | headerTops count => s!"a <header> contains {count} <h1> elements"
  | navHeadings count => s!"a <nav> contains {count} heading(s)"
  | navItems => "a <nav> has <li> elements as direct children"
  | navWithoutList => "a <nav> has list items but no <ul> or <ol>"
  | mainBefore name => s!"<main> appears before <{name}>"
  | footerBefore name => s!"<footer> is followed by <{name}>"

structure Flag where
  site : Site
  problem : Problem

/-- What is wrong with a heading, given the level before it and whether the first level was there. -/
def headingProblems (previous : Option Nat) (topped : Bool) (level : Nat) : List Problem :=
  match previous with
  | none => if level != 1 then [.startsAt level] else []
  | some before =>
    (if topped then [] else if level == 1 then [.lateTop] else [.beforeTop level]) ++
      (if before + 1 < level then [.skips level before] else [])

def sequenceFlags (previous : Option Nat) (topped : Bool) : List Site → List Flag
  | [] => []
  | s :: rest =>
    match Heading.levelOf? s.name with
    | none => sequenceFlags previous topped rest
    | some level =>
      (headingProblems previous topped level).map (⟨s, ·⟩) ++
        sequenceFlags (some level) (topped || level == 1) rest

/-- What is wrong with a header that has headings of these levels. -/
def headerProblems (levels : List Nat) : List Problem :=
  let tops := levels.count 1
  let others := levels.length - tops
  (if 0 < others && tops == 0 then [.headerWithoutTop] else []) ++
  (if 0 < others && 0 < tops then [.headerMixed] else []) ++
  (if 1 < tops then [.headerTops tops] else [])

def headerFlags (header : Site) : Except Breakdown (List Flag) := do
  let found ← header.query headings
  return (headerProblems (found.filterMap (Heading.levelOf? ·.name))).map (⟨header, ·⟩)

def navFlags (nav : Site) : Except Breakdown (List Flag) := do
  let found ← nav.query headings
  let items ← nav.query "li"
  let lists ← nav.query "ul, ol"
  let problems : List Problem :=
    (if found.isEmpty then [] else [.navHeadings found.length]) ++
    (if nav.children.any (·.name == "li") then [.navItems] else []) ++
    (if !items.isEmpty && lists.isEmpty then [.navWithoutList] else [])
  return problems.map (⟨nav, ·⟩)

/-- What is wrong with a landmark that is followed by landmarks of these names. -/
def landmarkProblems (name : String) (later : List String) : List Problem :=
  if name == "main" then
    (later.filter fun n => n == "header" || n == "nav").map .mainBefore
  else if name == "footer" then
    ((later.find? (· != "aside")).map .footerBefore).toList
  else []

def landmarkFlags : List Site → List Flag
  | [] => []
  | s :: later =>
    (landmarkProblems s.name (later.map (·.name))).map (⟨s, ·⟩) ++ landmarkFlags later

def landmarks (s : Site) : List Site :=
  s.childSites.filter fun c => ["header", "nav", "main", "aside", "footer"].contains c.name

def flags (d : Document) : Except Breakdown (List Flag) := do
  let found ← d.query headings
  let headers ← (← d.query "header").mapM headerFlags
  let navs ← (← d.query "nav").mapM navFlags
  let order := match d.body? with
    | some body => landmarkFlags (landmarks body)
    | none => []
  return sequenceFlags none false found ++ headers.flatten ++ navs.flatten ++ order

end Hierarchy

def hierarchy : Rule where
  criterion := ⟨"heading-hierarchy", "Heading hierarchy and landmark order", .error, 2, -3⟩
  check d _ := do
    let flags ← Hierarchy.flags d
    if flags.isEmpty then
      return .pass "Headings follow a valid hierarchy and landmarks appear in a valid order."
    else
      let problems := "; ".intercalate (flags.map (·.problem.text))
      return .fail s!"Heading and landmark structure problems: {problems}."
        ("Start with a single <h1>, go down one level at a time (h1 > h2 > h3), keep only the <h1> " ++
          "inside <header>, no headings inside <nav>, and order landmarks header, nav, main, footer.")
        (dropRepeats (sortOn (·.index) (d.handles (flags.map (·.site)))))

end PageGrader.Rule
