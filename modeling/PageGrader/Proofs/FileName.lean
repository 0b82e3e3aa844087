import PageGrader.Proofs.Offenders
import PageGrader.Proofs.Reference
import PageGrader.Rule.FileName

namespace PageGrader.Rule

open Reference (fileName isPlainName startsWith endsWith isRemote)

/-- An element that refers to a local file with a name that is not plain. -/
def misnamedFile : Offence where
  commits := misnames
  phrase n := s!"{n} files have invalid names"

def isLink (s : Site) : Bool := s.name == "a" || s.name == "link"

def misnamedPage : Offence where
  commits s := isLink s && s.hasAttribute "href" && misnamesPage s
  phrase n := s!"{n} HTML documents have invalid names"

variable {d : Document} {page : List Char} {s : Site} {r : String}

theorem reports_fileNames (d : Document) (page : List Char) :
    Reports d [misnamedFile] (fileNames.check d page) := by
  have hfound : (d.all "[href], [src]").filter misnames = misnamedFile.offenders d := by
    rw [d.all_anyOf [[.present "href"], [.present "src"]] rfl, List.filter_filter]
    apply List.filter_congr
    intro s _
    simp only [List.any_cons, List.any_nil, List.all_cons, List.all_nil, Bool.and_true, Bool.or_false,
      Selector.holds_present s "href" (by decide),
      Selector.holds_present s "src" (by decide)]
    -- Without either attribute there is nothing that could have a bad name.
    cases hhref : s.attribute? "href" <;> cases hsrc : s.attribute? "src" <;>
      simp_all [misnamedFile, misnames, Site.hasAttribute, Site.attribute?, Element.hasAttribute]
  exact .bind (d.query_of_inUse (by decide)) (.one (.of_eq hfound) rfl rfl rfl)

theorem reports_pageNames (d : Document) (page : List Char) :
    Reports d [misnamedPage] (pageNames.check d page) := by
  have hfound : (d.all "a[href], link[href]").filter misnamesPage = misnamedPage.offenders d := by
    rw [d.all_anyOf [[.tag "a", .present "href"], [.tag "link", .present "href"]] rfl,
      List.filter_filter]
    apply List.filter_congr
    intro s _
    simp only [List.any_cons, List.any_nil, List.all_cons, List.all_nil, Bool.and_true, Bool.or_false,
      Selector.holds_present s "href" (by decide),
      Selector.holds_tag s "a" (by decide), Selector.holds_tag s "link" (by decide)]
    show _ = (isLink s && s.hasAttribute "href" && misnamesPage s)
    rw [isLink, Bool.and_or_distrib_right, Bool.and_comm]
  exact .bind (d.query_of_inUse (by decide)) (.one (.of_eq hfound) rfl rfl rfl)

/-- A reference into the page itself, or one that names no file. -/
def isSpared (r : List Char) : Bool := startsWith "#" r || (fileName r).isEmpty

theorem mem_misnamedPage (hhref : s.attribute? "href" = some r) :
    s ∈ misnamedPage.offenders d ↔ s ∈ d.sites ∧ isLink s = true ∧ endsWith ".html" r.toList = true ∧
      isRemote r.toList = false ∧ isPlainName (fileName r.toList) = false := by
  have hhas : s.hasAttribute "href" = true := by
    rw [Site.hasAttribute, Element.hasAttribute, ← Site.attribute?, hhref]
    rfl
  simp [misnamedPage, Offence.offenders, misnamesPage, hhref, hhas, and_assoc]

theorem mem_misnamedFile (hhref : s.attribute? "href" = some r) :
    s ∈ misnamedFile.offenders d ↔ s ∈ d.sites ∧ r ≠ "" ∧ isRemote r.toList = false ∧
      isSpared r.toList = false ∧ isPlainName (fileName r.toList) = false := by
  simp [misnamedFile, Offence.offenders, misnames, hhref, Reference.isExternal, isSpared, and_assoc]

theorem ne_empty_of_endsWith (h : endsWith ".html" r.toList = true) : r ≠ "" := by
  rintro rfl
  revert h
  decide

/-- Both rules on names tell of all their offenders. A link to a page with a bad name is an offender of
both just if its reference is not spared, and a spared reference is none for the rule on files. -/
theorem misnamed_page_is_misnamed_file_iff (d : Document) (page : List Char) :
    Reports d [misnamedPage] (pageNames.check d page) ∧
      Reports d [misnamedFile] (fileNames.check d page) ∧
      ∀ s r, s.attribute? "href" = some r →
        (s ∈ misnamedPage.offenders d →
          (s ∈ misnamedFile.offenders d ↔ isSpared r.toList = false)) ∧
        (isSpared r.toList = true → s ∉ misnamedFile.offenders d) ∧
        (s ∈ misnamedPage.offenders d ↔ s ∈ d.sites ∧ isLink s = true ∧
          endsWith ".html" r.toList = true ∧ isRemote r.toList = false ∧
          isPlainName (fileName r.toList) = false) := by
  refine ⟨reports_pageNames d page, reports_fileNames d page, ?_⟩
  intro s r hhref
  refine ⟨?_, ?_, mem_misnamedPage hhref⟩
  · intro hmem
    obtain ⟨hs, -, hending, hremote, hname⟩ := (mem_misnamedPage hhref).mp hmem
    rw [mem_misnamedFile hhref]
    constructor
    · exact fun ⟨_, _, _, hspared, _⟩ => hspared
    · exact fun hspared => ⟨hs, ne_empty_of_endsWith hending, hremote, hspared, hname⟩
  · intro hspared hmem
    obtain ⟨-, -, -, hnot, -⟩ := (mem_misnamedFile hhref).mp hmem
    rw [hspared] at hnot
    cases hnot

/-- A link to a page with a capital in its name. -/
theorem misnamed_page_about :
    let page := "<a href=About.html>x</a>".toList
    let d := Document.ofPage page
    ∃ s ∈ misnamedPage.offenders d, s.attribute? "href" = some "About.html" ∧
      s ∈ misnamedFile.offenders d := by
  intro page d
  have hlink : ∃ s ∈ misnamedPage.offenders d, s.attribute? "href" = some "About.html" := by
    decide +kernel
  obtain ⟨s, hs, hhref⟩ := hlink
  obtain ⟨-, -, htold⟩ := misnamed_page_is_misnamed_file_iff d page
  refine ⟨s, hs, hhref, ?_⟩
  rw [(htold s _ hhref).1 hs]
  decide +kernel

/-- A link to a place in the page itself, with a dot in the name of that place. -/
theorem fragment_is_misnamed_page :
    let page := "<a href=#top.html>x</a>".toList
    let d := Document.ofPage page
    Document.read page = .ok d ∧ (pageNames.check d page).toOption.map (·.passed) = some false ∧
      (fileNames.check d page).toOption.map (·.passed) = some true ∧
      ∃ s ∈ misnamedPage.offenders d, s.attribute? "href" = some "#top.html" ∧
        fileName "#top.html".toList = [] := by
  intro page d
  exact ⟨rfl, by decide +kernel⟩

end PageGrader.Rule
