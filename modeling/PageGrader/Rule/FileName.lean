import PageGrader.Reference
import PageGrader.Rule

namespace PageGrader.Rule

/-- Whether an element refers to a local file with a name that is not plain. -/
def misnames (s : Site) : Bool :=
  match s.attribute? "href" <|> s.attribute? "src" with
  | none => false
  | some reference =>
    let reference := reference.toList
    let name := Reference.fileName reference
    !reference.isEmpty && !Reference.isExternal reference && !name.isEmpty &&
      !Reference.isPlainName name

def fileNames : Rule where
  criterion := ⟨"valid-filenames", "Valid file names", .warning, 1, -1⟩
  check d _ := do
    let invalid := (← d.query "[href], [src]").filter misnames
    if invalid.isEmpty then
      return .pass "All file names are valid."
    else
      let count := invalid.length
      return .fail s!"{count} files have invalid names."
        ("File names may only use lowercase letters, digits, dashes (-), dots (.) and " ++
          "underscores (_). No spaces, accents or Ñ.")
        (d.handles invalid)

/-- Whether a link leads to a local page with a name that is not plain. -/
def misnamesPage (s : Site) : Bool :=
  let reference := ((s.attribute? "href").getD "").toList
  Reference.endsWith ".html" reference && !Reference.isRemote reference &&
    !Reference.isPlainName (Reference.fileName reference)

def pageNames : Rule where
  criterion := ⟨"valid-document-names", "Valid document names", .warning, 1, -1⟩
  check d _ := do
    let invalid := (← d.query "a[href], link[href]").filter misnamesPage
    if invalid.isEmpty then
      return .pass "All HTML document names are valid."
    else
      let count := invalid.length
      return .fail s!"{count} HTML documents have invalid names."
        ("HTML file names follow the same rules: " ++
          "only lowercase letters, digits, dashes and dots.")
        (d.handles invalid)

end PageGrader.Rule
