import PageGrader.Markup.Doctype

namespace PageGrader.Markup

inductive Escape where
  | plain
  | escaped
  | doubled
  deriving DecidableEq, Repr

inductive Place where
  | text
  /-- Inside a commented part of a script, after so many dashes. -/
  | escapedText (level : Escape) (dashes : Nat)
  | tagOpen
  | endTagOpen
  | tagName
  | beforeName
  | name
  | afterName
  | beforeValue
  /-- Inside a value, with its quotation mark if it has one. -/
  | value (quote : Option Char)
  | afterQuoted
  | selfClosing
  | bogusComment
  /-- After `<!`, with what follows so far. -/
  | declaration (seen : List Char)
  | comment
  | doctype
  | cdata (brackets : Nat)
  | rawLess (level : Escape)
  | rawEndOpen (level : Escape)
  | rawEndName (level : Escape) (seen : List Char)
  | escapeStart (dashed : Bool)
  | escapeWord (level : Escape) (seen : List Char)
  /-- After an ampersand: in a value (with its mark) or in text. -/
  | reference (value : Option (Option Char)) (seen : List Char)
  deriving DecidableEq, Repr

/-- The lexer between two characters. Lists of characters in the making are kept latest first. -/
structure Lexer where
  place : Place := .text
  content : Content := .data
  /-- The name of the latest start tag, which alone can end its raw text. -/
  latest : String := ""
  closing : Bool := false
  tagName : List Char := []
  attributes : List Attribute := []
  attributeName : List Char := []
  attributeValue : List Char := []
  selfClosing : Bool := false
  /-- The body of a comment or declaration. -/
  body : List Char := []
  /-- Text that is not handed over yet. -/
  held : List Char := []
  deriving Repr

namespace Lexer

def unmask (c : Char) : Char :=
  if c == '\x00' then Reference.replacement else c

def goto (lx : Lexer) (place : Place) : Lexer × List Token := ({ lx with place }, [])

def push (lx : Lexer) (c : Char) : Lexer := { lx with held := c :: lx.held }

def pushAll (lx : Lexer) (s : List Char) : Lexer := { lx with held := s.reverse ++ lx.held }

def flush (lx : Lexer) (tokens : List Token) : Lexer × List Token :=
  if lx.held.isEmpty then (lx, tokens)
  else ({ lx with held := [] }, .text lx.held.reverse :: tokens)

def openTag (lx : Lexer) (closing : Bool) (name : List Char) : Lexer :=
  { lx with closing, tagName := name, attributes := [], attributeName := [], attributeValue := [],
            selfClosing := false }

/-- Keeps the attribute read so far, unless the tag already has one of that name. -/
def keepAttribute (lx : Lexer) : Lexer :=
  let name := String.ofList lx.attributeName.reverse
  let cleared := { lx with attributeName := [], attributeValue := [] }
  if lx.attributeName.isEmpty || lx.attributes.any (·.name == name) then cleared
  else
    { cleared with
      attributes := { name, value := String.ofList lx.attributeValue.reverse } :: lx.attributes }

def startAttribute (lx : Lexer) (c : Char) : Lexer :=
  { lx.keepAttribute with attributeName := [(unmask c).toLower], place := .name }

def emitTag (lx : Lexer) : Lexer × List Token :=
  let lx := lx.keepAttribute
  let name := String.ofList lx.tagName.reverse
  if lx.closing then
    { lx with place := .text, content := .data }.flush [.finish name]
  else
    { lx with place := .text, latest := name }.flush
      [.start { name, attributes := lx.attributes.reverse, selfClosing := lx.selfClosing }]

def textStep (lx : Lexer) (c : Char) : Lexer × List Token :=
  match lx.content with
  | .data =>
    if c == '<' then lx.goto .tagOpen
    else if c == '&' then lx.goto (.reference none [])
    else if c == '\x00' then lx.flush [.null]
    else (lx.push c, [])
  | .rcdata =>
    if c == '<' then lx.goto (.rawLess .plain)
    else if c == '&' then lx.goto (.reference none [])
    else (lx.push (unmask c), [])
  | .rawtext | .script =>
    if c == '<' then lx.goto (.rawLess .plain)
    else (lx.push (unmask c), [])
  | .plaintext => (lx.push (unmask c), [])

def inText (lx : Lexer) (c : Char) : Lexer × List Token :=
  { lx with place := .text }.textStep c

def escapedStep (lx : Lexer) (level : Escape) (dashes : Nat) (c : Char) : Lexer × List Token :=
  if c == '-' then (lx.push c).goto (.escapedText level (min 2 (dashes + 1)))
  else if c == '<' then
    (if level == .doubled then lx.push c else lx).goto (.rawLess level)
  else if c == '>' && dashes == 2 then (lx.push c).goto .text
  else (lx.push (unmask c)).goto (.escapedText level 0)

/-- Reads `c` as text again, at the given level of a script's comment. -/
def backTo (lx : Lexer) (level : Escape) (c : Char) : Lexer × List Token :=
  match level with
  | .plain => lx.inText c
  | _ => lx.escapedStep level 0 c

def rawLessStep (lx : Lexer) (level : Escape) (c : Char) : Lexer × List Token :=
  match level with
  | .plain =>
    if c == '/' then lx.goto (.rawEndOpen level)
    else if c == '!' && lx.content == .script then (lx.pushAll ['<', '!']).goto (.escapeStart false)
    else (lx.push '<').inText c
  | .escaped =>
    if c == '/' then lx.goto (.rawEndOpen level)
    else if c.isAlpha then (lx.pushAll ['<', c]).goto (.escapeWord level [c])
    else (lx.push '<').backTo level c
  | .doubled =>
    if c == '/' then (lx.push c).goto (.escapeWord level [])
    else lx.backTo level c

def rawEndOpenStep (lx : Lexer) (level : Escape) (c : Char) : Lexer × List Token :=
  if c.isAlpha then lx.goto (.rawEndName level [c])
  else (lx.pushAll ['<', '/']).backTo level c

/-- Raw text ends only at an end tag with the name of the tag that began it. -/
def rawEndNameStep (lx : Lexer) (level : Escape) (seen : List Char) (c : Char) :
    Lexer × List Token :=
  let name := Text.lower seen
  let fits := String.ofList name.reverse == lx.latest
  if fits && Text.isMarkupSpace c then (lx.openTag true name).goto .beforeName
  else if fits && c == '/' then (lx.openTag true name).goto .selfClosing
  else if fits && c == '>' then (lx.openTag true name).emitTag
  else if c.isAlpha then lx.goto (.rawEndName level (c :: seen))
  else (lx.pushAll ('<' :: '/' :: seen.reverse)).backTo level c

def escapeStartStep (lx : Lexer) (dashed : Bool) (c : Char) : Lexer × List Token :=
  if c == '-' then
    (lx.push c).goto (if dashed then .escapedText .escaped 2 else .escapeStart true)
  else lx.inText c

/-- The word `script` after `<` or `</` moves a script's comment one level in or out. -/
def escapeWordStep (lx : Lexer) (level : Escape) (seen : List Char) (c : Char) :
    Lexer × List Token :=
  if Text.isMarkupSpace c || c == '/' || c == '>' then
    let isScript := Text.lower seen.reverse == "script".toList
    let next := match level with
      | .doubled => if isScript then Escape.escaped else .doubled
      | _ => if isScript then .doubled else .escaped
    (lx.push c).goto (.escapedText next 0)
  else if c.isAlpha then (lx.push c).goto (.escapeWord level (c :: seen))
  else lx.backTo level c

def beforeNameStep (lx : Lexer) (c : Char) : Lexer × List Token :=
  if Text.isMarkupSpace c then lx.goto .beforeName
  else if c == '/' then lx.goto .selfClosing
  else if c == '>' then lx.emitTag
  else (lx.startAttribute c, [])

def tagNameStep (lx : Lexer) (c : Char) : Lexer × List Token :=
  if Text.isMarkupSpace c then lx.goto .beforeName
  else if c == '/' then lx.goto .selfClosing
  else if c == '>' then lx.emitTag
  else ({ lx with tagName := (unmask c).toLower :: lx.tagName }, [])

def nameStep (lx : Lexer) (c : Char) : Lexer × List Token :=
  if Text.isMarkupSpace c then lx.goto .afterName
  else if c == '/' then lx.goto .selfClosing
  else if c == '=' then lx.goto .beforeValue
  else if c == '>' then lx.emitTag
  else ({ lx with attributeName := (unmask c).toLower :: lx.attributeName }, [])

def afterNameStep (lx : Lexer) (c : Char) : Lexer × List Token :=
  if Text.isMarkupSpace c then (lx, [])
  else if c == '/' then lx.goto .selfClosing
  else if c == '=' then lx.goto .beforeValue
  else if c == '>' then lx.emitTag
  else (lx.startAttribute c, [])

def pushValue (lx : Lexer) (s : List Char) : Lexer :=
  { lx with attributeValue := s.reverse ++ lx.attributeValue }

def valueStep (lx : Lexer) (quote : Option Char) (c : Char) : Lexer × List Token :=
  let stay := { lx with place := .value quote }
  if c == '&' then lx.goto (.reference (some quote) [])
  else match quote with
    | some q => if c == q then lx.goto .afterQuoted else (stay.pushValue [unmask c], [])
    | none =>
      if Text.isMarkupSpace c then lx.goto .beforeName
      else if c == '>' then lx.emitTag
      else (stay.pushValue [unmask c], [])

def beforeValueStep (lx : Lexer) (c : Char) : Lexer × List Token :=
  if Text.isMarkupSpace c then (lx, [])
  else if c == '"' || c == '\'' then lx.goto (.value (some c))
  else if c == '>' then lx.emitTag
  else lx.valueStep none c

def afterQuotedStep (lx : Lexer) (c : Char) : Lexer × List Token :=
  lx.beforeNameStep c

def selfClosingStep (lx : Lexer) (c : Char) : Lexer × List Token :=
  if c == '>' then { lx with selfClosing := true }.emitTag else lx.beforeNameStep c

def emitComment (lx : Lexer) (body : List Char) : Lexer × List Token :=
  { lx with place := .text, body := [] }.flush [.comment (String.ofList body.reverse)]

def bogusStep (lx : Lexer) (c : Char) : Lexer × List Token :=
  if c == '>' then lx.emitComment lx.body
  else ({ lx with place := .bogusComment, body := unmask c :: lx.body }, [])

/-- What a closing bracket leaves of a comment's body (latest first), if it ends the comment. -/
def commentBody : List Char → Option (List Char)
  | [] => some []
  | ['-'] => some []
  | '-' :: '-' :: r => some r
  | '!' :: '-' :: '-' :: r => some r
  | _ => none

def commentStep (lx : Lexer) (c : Char) : Lexer × List Token :=
  match (if c == '>' then commentBody lx.body else none) with
  | some body => lx.emitComment body
  | none => ({ lx with body := unmask c :: lx.body }, [])

def doctypeStep (lx : Lexer) (c : Char) : Lexer × List Token :=
  if c == '>' then { lx with place := .text, body := [] }.flush [.doctype (Doctype.read lx.body.reverse)]
  else ({ lx with body := c :: lx.body }, [])

/-- A comment, a document type, a CDATA section in a foreign vocabulary, or a bogus comment. -/
def declarationStep (foreign : Bool) (lx : Lexer) (seen : List Char) (c : Char) :
    Lexer × List Token :=
  let now := seen ++ [c]
  let small := Text.lower now
  if now == ['-', '-'] then { lx with body := [] }.goto .comment
  else if small == "doctype".toList then { lx with body := [] }.goto .doctype
  else if foreign && now == "[CDATA[".toList then lx.goto (.cdata 0)
  else if now == ['-'] || small.isPrefixOf "doctype".toList ||
      (foreign && now.isPrefixOf "[CDATA[".toList) then lx.goto (.declaration now)
  else { lx with body := seen.reverse }.bogusStep c

def cdataStep (lx : Lexer) (brackets : Nat) (c : Char) : Lexer × List Token :=
  if c == ']' then
    if brackets == 2 then (lx.push c, []) else lx.goto (.cdata (brackets + 1))
  else if c == '>' && brackets == 2 then lx.goto .text
  else
    let lx := { lx.pushAll (List.replicate brackets ']') with place := .cdata 0 }
    if c == '\x00' then lx.flush [.null] else (lx.push c, [])

def tagOpenStep (lx : Lexer) (c : Char) : Lexer × List Token :=
  if c == '!' then { lx with place := .declaration [] }.flush []
  else if c == '/' then lx.goto .endTagOpen
  else if c == '?' then { lx with body := [] }.bogusStep c
  else if c.isAlpha then (lx.openTag false [c.toLower]).goto .tagName
  else (lx.push '<').inText c

def endTagOpenStep (lx : Lexer) (c : Char) : Lexer × List Token :=
  if c == '>' then { lx with place := .text }.flush [.lapse]
  else if c.isAlpha then (lx.openTag true [c.toLower]).goto .tagName
  else { lx with body := [] }.bogusStep c

def settleReference (lx : Lexer) (value : Option (Option Char)) (seen : List Char)
    (next : Option Char) : Lexer × List Token × Bool :=
  let meaning := Reference.resolve value.isSome seen next
  match value with
  | some quote => ({ lx with place := .value quote }.pushValue meaning.chars, [], meaning.takesNext)
  | none =>
    let lx := { lx with place := .text }
    if meaning.lapse then
      let (lx, tokens) := lx.flush [.lapse]
      (lx.pushAll meaning.chars, tokens, meaning.takesNext)
    else (lx.pushAll meaning.chars, [], meaning.takesNext)

def referenceStep (lx : Lexer) (value : Option (Option Char)) (seen : List Char) (c : Char) :
    Lexer × List Token :=
  if Reference.continues seen c then lx.goto (.reference value (seen ++ [c]))
  else
    let (lx, tokens, takesNext) := lx.settleReference value seen (some c)
    if takesNext then (lx, tokens)
    else
      let (lx, more) := match value with
        | some quote => lx.valueStep quote c
        | none => lx.textStep c
      (lx, tokens ++ more)

/-- One character. `foreign` says that the innermost open element is not an HTML element. -/
def feed (foreign : Bool) (lx : Lexer) (c : Char) : Lexer × List Token :=
  match lx.place with
  | .text => lx.textStep c
  | .escapedText level dashes => lx.escapedStep level dashes c
  | .tagOpen => lx.tagOpenStep c
  | .endTagOpen => lx.endTagOpenStep c
  | .tagName => lx.tagNameStep c
  | .beforeName => lx.beforeNameStep c
  | .name => lx.nameStep c
  | .afterName => lx.afterNameStep c
  | .beforeValue => lx.beforeValueStep c
  | .value quote => lx.valueStep quote c
  | .afterQuoted => lx.afterQuotedStep c
  | .selfClosing => lx.selfClosingStep c
  | .bogusComment => lx.bogusStep c
  | .declaration seen => declarationStep foreign lx seen c
  | .comment => lx.commentStep c
  | .doctype => lx.doctypeStep c
  | .cdata brackets => lx.cdataStep brackets c
  | .rawLess level => lx.rawLessStep level c
  | .rawEndOpen level => lx.rawEndOpenStep level c
  | .rawEndName level seen => lx.rawEndNameStep level seen c
  | .escapeStart dashed => lx.escapeStartStep dashed c
  | .escapeWord level seen => lx.escapeWordStep level seen c
  | .reference value seen => lx.referenceStep value seen c

/-- The end of the text: an unfinished tag is dropped, anything else unfinished is kept. -/
def close (lx : Lexer) : List Token :=
  let ending (lx : Lexer) : List Token := (lx.flush [.eof]).2
  match lx.place with
  | .tagOpen => ending (lx.push '<')
  | .endTagOpen => ending (lx.pushAll ['<', '/'])
  | .rawLess .doubled => ending lx
  | .rawLess _ => ending (lx.push '<')
  | .rawEndOpen _ => ending (lx.pushAll ['<', '/'])
  | .rawEndName _ seen => ending (lx.pushAll ('<' :: '/' :: seen.reverse))
  | .cdata brackets => ending (lx.pushAll (List.replicate brackets ']'))
  | .bogusComment | .comment => (lx.emitComment lx.body).2 ++ [.eof]
  | .declaration seen => (lx.emitComment seen.reverse).2 ++ [.eof]
  | .doctype =>
    (lx.flush [.doctype { Doctype.read lx.body.reverse with broken := true }, .eof]).2
  | .reference none seen =>
    let (lx, tokens, _) := lx.settleReference none seen none
    tokens ++ ending lx
  | _ => ending lx

end Lexer

/-- Line endings become single line feeds; `afterReturn` tells that the last character was a
carriage return. -/
def normaliseFrom (afterReturn : Bool) : List Char → List Char
  | [] => []
  | c :: r =>
    if c == '\r' then '\n' :: normaliseFrom true r
    else if c == '\n' && afterReturn then normaliseFrom false r
    else c :: normaliseFrom false r

def normalise (page : List Char) : List Char :=
  normaliseFrom false (match page with
    | '\ufeff' :: r => r
    | s => s)

end PageGrader.Markup
