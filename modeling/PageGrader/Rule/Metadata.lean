import PageGrader.Rule

namespace PageGrader.Rule

def title : Rule where
  criterion := ⟨"document-title", "Document title", .error, 1, -2⟩
  check d _ := do
    match ← d.first? "head title" with
    | none =>
      return .fail "No <title> element found in the <head>."
        "Add a <title> element inside the <head> with the title of the document."
    | some found =>
      let text := Text.trimmed found.text
      if text.isEmpty then
        return .fail "The <title> element is empty."
          "The <title> must contain text describing the content of the document."
          (d.handles [found])
      else
        return .pass s!"The document has a valid title: \"{text}\"." (d.handles [found])

/-- Whether the attribute is there and its value is as asked for. -/
def attributeIs (s : Site) (name : String) (p : String → Bool) : Bool :=
  (s.attribute? name).any p

def declaresCharset (s : Site) : Bool :=
  attributeIs s "charset" fun value => Text.sameLetters (Text.trimmed value) "utf-8"

def declaresContentType (s : Site) : Bool :=
  attributeIs s "http-equiv" (Text.sameLetters · "content-type") &&
    attributeIs s "content" fun value => Text.holds "charset=utf-8".toList (Text.lower value.toList)

def encoding : Rule where
  criterion := ⟨"utf8-encoding", "UTF-8 encoding", .error, 1, -2⟩
  check d _ := do
    let short := (← d.query "meta[charset]").find? declaresCharset
    let long := (← d.query "meta[http-equiv]").find? declaresContentType
    match short <|> long with
    | some found => return .pass "Found a UTF-8 encoding declaration." (d.handles [found])
    | none =>
      return .fail "No UTF-8 encoding declaration found."
        "Add <meta charset=\"UTF-8\"> at the start of the <head>."

def viewport : Rule where
  criterion := ⟨"valid-viewport", "Meta viewport for responsive design", .warning, 1, -1⟩
  check d _ := do
    let found := (← d.query "meta[name]").find? fun s =>
      attributeIs s "name" (Text.sameLetters · "viewport")
    match found with
    | none =>
      return .fail "The viewport meta tag is missing."
        ("Add <meta name=\"viewport\" content=\"width=device-width, initial-scale=1.0\"> " ++
          "to the <head> for responsive design.")
    | some found =>
      if attributeIs found "content" fun value =>
          Text.holds "width=device-width".toList value.toList then
        return .pass "The viewport meta tag is set up for responsive design." (d.handles [found])
      else
        return .fail "The viewport meta tag has no responsive configuration."
          "Use content=\"width=device-width, initial-scale=1.0\" on the viewport meta tag."
          (d.handles [found])

end PageGrader.Rule
