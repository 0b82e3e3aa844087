import PageGrader.Markup.Token
import PageGrader.Markup.Reference

namespace PageGrader.Markup.Doctype

def skip (s : List Char) : List Char := s.dropWhile Text.isMarkupSpace

def unmasked (s : List Char) : String :=
  String.ofList (s.map fun c => if c == '\x00' then Reference.replacement else c)

/-- An identifier in quotes at the start of `s`: its text, the rest, and whether it was closed. -/
def quoted (s : List Char) : Option (String × List Char × Bool) :=
  match s with
  | q :: r =>
    if q == '"' || q == '\'' then
      let body := r.takeWhile (· != q)
      let rest := r.dropWhile (· != q)
      some (unmasked body, rest.drop 1, !rest.isEmpty)
    else none
  | [] => none

def systemPart (d : Doctype) (s : List Char) : Doctype :=
  match quoted (skip s) with
  | some (id, _, closed) => { d with systemId := some id, broken := !closed }
  | none => { d with broken := true }

def publicPart (d : Doctype) (s : List Char) : Doctype :=
  match quoted (skip s) with
  | some (id, rest, closed) =>
    let d := { d with publicId := some id, broken := !closed }
    if (skip rest).isEmpty then d
    else match quoted (skip rest) with
      | some (system, _, ended) => { d with systemId := some system, broken := !ended }
      | none => { d with broken := true }
  | none => { d with broken := true }

/-- Reads what stands between the keyword and the closing bracket. -/
def read (s : List Char) : Doctype :=
  let s := skip s
  if s.isEmpty then { broken := true }
  else
    let name := s.takeWhile (!Text.isMarkupSpace ·)
    let rest := skip (s.dropWhile (!Text.isMarkupSpace ·))
    let d : Doctype := { name := some (unmasked (Text.lower name)) }
    let keyword := Text.lower (rest.take 6)
    if rest.isEmpty then d
    else if keyword == "public".toList then publicPart d (rest.drop 6)
    else if keyword == "system".toList then systemPart d (rest.drop 6)
    else { d with broken := true }

def oldPublicStarts : List String := [
  "-//advasoft ltd//dtd html 3.0 aswedit + extensions//", "-//as//dtd html 3.0 aswedit + extensions//",
  "+//silmaril//dtd html pro v0r11 19970101//", "-//ietf//dtd html 2.0 level 1//",
  "-//ietf//dtd html 2.0 level 2//", "-//ietf//dtd html 2.0 strict level 1//",
  "-//ietf//dtd html 2.0 strict level 2//", "-//ietf//dtd html 2.0 strict//",
  "-//ietf//dtd html 2.0//", "-//ietf//dtd html 2.1e//", "-//ietf//dtd html 3.0//",
  "-//ietf//dtd html 3.2 final//", "-//ietf//dtd html 3.2//", "-//ietf//dtd html 3//",
  "-//ietf//dtd html level 0//", "-//ietf//dtd html level 1//", "-//ietf//dtd html level 2//",
  "-//ietf//dtd html level 3//", "-//ietf//dtd html strict level 0//",
  "-//ietf//dtd html strict level 1//", "-//ietf//dtd html strict level 2//",
  "-//ietf//dtd html strict level 3//", "-//ietf//dtd html strict//", "-//ietf//dtd html//",
  "-//metrius//dtd metrius presentational//", "-//microsoft//dtd internet explorer 2.0 html strict//",
  "-//microsoft//dtd internet explorer 2.0 html//", "-//microsoft//dtd internet explorer 2.0 tables//",
  "-//microsoft//dtd internet explorer 3.0 html strict//",
  "-//microsoft//dtd internet explorer 3.0 html//", "-//microsoft//dtd internet explorer 3.0 tables//",
  "-//netscape comm. corp.//dtd html//", "-//netscape comm. corp.//dtd strict html//",
  "-//o'reilly and associates//dtd html 2.0//", "-//o'reilly and associates//dtd html extended 1.0//",
  "-//o'reilly and associates//dtd html extended relaxed 1.0//",
  "-//softquad software//dtd hotmetal pro 6.0::19990601::extensions to html 4.0//",
  "-//softquad//dtd hotmetal pro 4.0::19971010::extensions to html 4.0//",
  "-//spyglass//dtd html 2.0 extended//", "-//sq//dtd html 2.0 hotmetal + extensions//",
  "-//sun microsystems corp.//dtd hotjava html//",
  "-//sun microsystems corp.//dtd hotjava strict html//", "-//w3c//dtd html 3 1995-03-24//",
  "-//w3c//dtd html 3.2 draft//", "-//w3c//dtd html 3.2 final//", "-//w3c//dtd html 3.2//",
  "-//w3c//dtd html 3.2s draft//", "-//w3c//dtd html 4.0 frameset//",
  "-//w3c//dtd html 4.0 transitional//", "-//w3c//dtd html experimental 19960712//",
  "-//w3c//dtd html experimental 970421//", "-//w3c//dtd w3 html//", "-//w3o//dtd w3 html 3.0//",
  "-//webtechs//dtd mozilla html 2.0//", "-//webtechs//dtd mozilla html//"]

def oldPublicIds : List String :=
  ["-//w3o//dtd w3 html strict 3.0//en//", "-/w3c/dtd html 4.0 transitional/en", "html"]

def framePublicStarts : List String :=
  ["-//w3c//dtd html 4.01 frameset//", "-//w3c//dtd html 4.01 transitional//"]

def startsWithAny (starts : List String) (id : List Char) : Bool :=
  starts.any fun s => s.toList.isPrefixOf id

/-- Whether a page with this declaration lets a table stand inside an open paragraph. -/
def isOld (d : Doctype) : Bool :=
  let publicId := d.publicId.map fun s => Text.lower s.toList
  let systemId := d.systemId.map fun s => Text.lower s.toList
  d.broken || d.name != some "html" ||
    publicId.any (fun id => oldPublicIds.any (·.toList == id) || startsWithAny oldPublicStarts id) ||
    systemId.any (· == "http://www.ibm.com/data/dtd/v11/ibmxhtml1-transitional.dtd".toList) ||
    (systemId.isNone && publicId.any (startsWithAny framePublicStarts))

end PageGrader.Markup.Doctype
