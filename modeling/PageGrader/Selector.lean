import PageGrader.Document
import PageGrader.Text.Blank

namespace PageGrader

inductive Comparison where
  | exact
  /-- One of the words of the value. -/
  | word
  /-- The value or its start before a hyphen. -/
  | dash
  | start
  | ending
  | inside
  deriving DecidableEq, Repr

inductive Test where
  | tag (name : String)
  | id (s : String)
  | inClass (s : String)
  | present (name : String)
  | value (name : String) (how : Comparison) (s : String) (anyCase : Option Bool)
  deriving DecidableEq, Repr

/-- How a part of a selector is reached from the part to its right. -/
inductive Combinator where
  | descendant
  | child
  | next
  | later
  deriving DecidableEq, Repr

/-- A chain of compound tests, read from the element outwards. -/
structure Chain where
  self : List Test
  rest : List (Combinator × List Test) := []
  deriving DecidableEq, Repr

structure Selector where
  chains : List Chain
  deriving DecidableEq, Repr

namespace Selector

/-- Attributes whose values are compared without regard to letter case on HTML elements. -/
def caselessAttributes : List String :=
  ["accept", "accept-charset", "align", "alink", "axis", "bgcolor", "charset", "checked", "clear",
   "codetype", "color", "compact", "declare", "defer", "dir", "direction", "disabled", "enctype",
   "face", "frame", "hreflang", "http-equiv", "lang", "language", "link", "media", "method",
   "multiple", "nohref", "noresize", "noshade", "nowrap", "readonly", "rel", "rev", "rules", "scope",
   "scrolling", "selected", "shape", "target", "text", "type", "valign", "valuetype", "vlink"]

def compare (how : Comparison) (value wanted : List Char) : Bool :=
  match how with
  | .exact => value == wanted
  | .word => !wanted.isEmpty && (Text.splitAt Text.isMarkupSpace value).contains wanted
  | .dash => value == wanted || (wanted ++ ['-']).isPrefixOf value
  | .start => !wanted.isEmpty && wanted.isPrefixOf value
  | .ending => !wanted.isEmpty && wanted.reverse.isPrefixOf value.reverse
  | .inside => !wanted.isEmpty && Text.holds wanted value

/-- Names are compared in small letters for HTML elements and as written for others. -/
def nameFor (e : Element) (name : String) : String :=
  if e.space == .html then Text.lowered name else name

def ignoresCase (e : Element) (name : String) (anyCase : Option Bool) : Bool :=
  anyCase.getD (e.space == .html && caselessAttributes.contains (Text.lowered name))

def Test.holds (t : Test) (e : Element) : Bool :=
  match t with
  | .tag name => e.name == nameFor e name
  | .id s => (e.attributes.find? (·.name == "id")).any (·.value == s)
  | .inClass s =>
    (e.attributes.filter (·.name == "class")).any fun a => (Text.words a.value.toList).contains s.toList
  | .present name => e.hasAttribute (nameFor e name)
  | .value name how s anyCase =>
    (e.attribute? (nameFor e name)).any fun value =>
      if ignoresCase e name anyCase then compare how (Text.lower value.toList) (Text.lower s.toList)
      else compare how value.toList s.toList

def fits (tests : List Test) (s : Site) : Bool := tests.all (Test.holds · s.element)

def Combinator.reach (c : Combinator) (s : Site) : List Site :=
  match c with
  | .descendant => s.parents
  | .child => s.parent?.toList
  | .next => s.earlierSiblings.head?.toList
  | .later => s.earlierSiblings

def outwards : List (Combinator × List Test) → Site → Bool
  | [], _ => true
  | (c, tests) :: rest, s => (Combinator.reach c s).any fun t => fits tests t && outwards rest t

def Chain.accepts (c : Chain) (s : Site) : Bool :=
  fits c.self s && outwards c.rest s

def accepts (sel : Selector) (s : Site) : Bool :=
  sel.chains.any (Chain.accepts · s)

def skip : Nat → List Char → List Char
  | 0, s => s
  | n + 1, s =>
    match s with
    | '/' :: '*' :: r => skip n (skipComment r)
    | c :: r => if Text.isMarkupSpace c then skip n r else s
    | [] => []
where
  skipComment : List Char → List Char
    | '*' :: '/' :: r => r
    | _ :: r => skipComment r
    | [] => []

def skipBlank (s : List Char) : List Char := skip s.length s

def isNameStart (c : Char) : Bool := c.isAlpha || c == '_' || c.toNat ≥ 0x80

def isNameChar (c : Char) : Bool := isNameStart c || c.isDigit || c == '-'

def charOf (n : Nat) : Char :=
  if n == 0 || n > 0x10FFFF || (0xD800 ≤ n && n ≤ 0xDFFF) then Markup.Reference.replacement
  else Char.ofNat n

/-- What follows a backslash: the number of a character, or a character taken as it is. -/
def escape (s : List Char) : Option (Char × List Char) :=
  let digits := (s.take 6).takeWhile fun c => (Markup.Reference.digitValue 16 c).isSome
  if !digits.isEmpty then
    let rest := s.drop digits.length
    let rest := match rest with
      | c :: r => if Text.isMarkupSpace c then r else rest
      | [] => []
    some (charOf (Markup.Reference.numberOf 16 digits), rest)
  else match s with
    | [] => some (Markup.Reference.replacement, [])
    | c :: r => if c == '\n' || c == '\r' || c == '\x0c' then none else some (c, r)

def nameChars : Nat → List Char → List Char × List Char
  | 0, s => ([], s)
  | n + 1, s =>
    match s with
    | '\\' :: r =>
      match escape r with
      | some (c, r) =>
        let (more, rest) := nameChars n r
        (c :: more, rest)
      | none => ([], s)
    | c :: r =>
      if isNameChar c then
        let (more, rest) := nameChars n r
        (c :: more, rest)
      else ([], s)
    | [] => ([], [])

def startsName (s : List Char) : Bool :=
  match s with
  | '-' :: '-' :: _ => true
  | '-' :: '\\' :: r | '\\' :: r => (escape r).isSome
  | '-' :: c :: _ => isNameStart c
  | c :: _ => isNameStart c
  | [] => false

def name (s : List Char) : Option (String × List Char) :=
  if startsName s then
    let (chars, rest) := nameChars s.length s
    some (String.ofList chars, rest)
  else none

/-- The rest of a string in quotation marks; the end of the text closes it too. -/
def quotedChars (quote : Char) : Nat → List Char → Option (List Char × List Char)
  | 0, _ => some ([], [])
  | n + 1, s =>
    match s with
    | [] => some ([], [])
    | '\\' :: '\n' :: r => quotedChars quote n r
    | '\\' :: r =>
      if r.isEmpty then some ([], [])
      else (escape r).bind fun (c, r) => (quotedChars quote n r).map fun (more, rest) => (c :: more, rest)
    | c :: r =>
      if c == quote then some ([], r)
      else if c == '\n' then none
      else (quotedChars quote n r).map fun (more, rest) => (c :: more, rest)

def operand (s : List Char) : Option (String × List Char) :=
  match s with
  | c :: r =>
    if c == '"' || c == '\'' then
      (quotedChars c s.length r).map fun (chars, rest) => (String.ofList chars, rest)
    else name s
  | [] => none

def comparison (s : List Char) : Option (Comparison × List Char) :=
  match s with
  | '=' :: r => some (.exact, r)
  | '~' :: '=' :: r => some (.word, r)
  | '|' :: '=' :: r => some (.dash, r)
  | '^' :: '=' :: r => some (.start, r)
  | '$' :: '=' :: r => some (.ending, r)
  | '*' :: '=' :: r => some (.inside, r)
  | _ => none

/-- A closing bracket, which the end of the text stands for too. -/
def closing (s : List Char) : Option (List Char) :=
  match skipBlank s with
  | ']' :: r => some r
  | [] => some []
  | _ => none

/-- The letter that asks for a comparison with or without regard to case. -/
def caseFlag (s : List Char) : Option (Option Bool × List Char) :=
  match name (skipBlank s) with
  | none => some (none, s)
  | some (flag, rest) =>
    if Text.lowered flag == "i" then some (some true, rest)
    else if Text.lowered flag == "s" then some (some false, rest)
    else none

def attributeTest (s : List Char) : Option (Test × List Char) := do
  let (called, rest) ← name (skipBlank s)
  match closing rest with
  | some rest => return (.present called, rest)
  | none =>
    let (how, rest) ← comparison (skipBlank rest)
    let (wanted, rest) ← operand (skipBlank rest)
    let (flag, rest) ← caseFlag rest
    return (.value called how wanted flag, ← closing rest)

/-- One class, identifier or attribute test; `none` where none starts. -/
def oneTest (s : List Char) : Option (Option (Test × List Char)) :=
  match s with
  | '.' :: r => some ((name r).map fun (n, rest) => (.inClass n, rest))
  | '#' :: r => some ((name r).map fun (n, rest) => (.id n, rest))
  | '[' :: r => some (attributeTest r)
  | _ => none

def tests : Nat → List Char → Option (List Test × List Char)
  | 0, s => some ([], s)
  | n + 1, s =>
    match oneTest s with
    | none => some ([], s)
    | some none => none
    | some (some (t, rest)) => (tests n rest).map fun (more, rest) => (t :: more, rest)

/-- A type, or a star, or at least one other test; then all other tests that follow. -/
def compound (s : List Char) : Option (List Test × List Char) :=
  let (head, rest, any) : List Test × List Char × Bool := match s with
    | '*' :: r => ([], r, true)
    | _ => match name s with
      | some (n, rest) => ([.tag n], rest, true)
      | none => ([], s, false)
  match rest with
  | '|' :: _ => none
  | _ =>
    (tests rest.length rest).bind fun (more, rest) =>
      if any || !more.isEmpty then some (head ++ more, rest) else none

/-- What joins the part read so far to the next one, if there is a next one. -/
def combinator (s : List Char) : Option (Combinator × List Char) :=
  let rest := skipBlank s
  match rest with
  | [] => none
  | ',' :: _ => none
  | '>' :: r => some (.child, skipBlank r)
  | '+' :: r => some (.next, skipBlank r)
  | '~' :: r => some (.later, skipBlank r)
  | _ => if s.length == rest.length then none else some (.descendant, rest)

/-- The parts after the first; `done` holds the chain read so far. -/
def chain : Nat → Chain → List Char → Option (Chain × List Char)
  | 0, read, s => some (read, s)
  | n + 1, read, s =>
    match combinator s with
    | none => some (read, s)
    | some (c, rest) =>
      (compound rest).bind fun (self, rest) => chain n ⟨self, (c, read.self) :: read.rest⟩ rest

def chainList : Nat → List Char → Option (List Chain)
  | 0, _ => none
  | n + 1, s => do
    let (self, rest) ← compound (skipBlank s)
    let (c, rest) ← chain rest.length ⟨self, []⟩ rest
    match skipBlank rest with
    | [] => return [c]
    | ',' :: r => return c :: (← chainList n r)
    | _ => none

/-- Reads a selector made of types, stars, classes, identifiers, attributes, combinators and commas. Those
with a namespace or a pseudo-class are not read; what is said of all selectors does not go by this
reader. -/
def read? (css : String) : Option Selector :=
  let s := css.toList
  (chainList (s.length + 1) s).map (⟨·⟩)

end Selector

namespace Document

/-- The sites that pass, in the order their elements were made. -/
def selecting (d : Document) (accepts : Site → Bool) : List Site :=
  d.sites.filter accepts

def select (d : Document) (sel : Selector) : List Site :=
  d.selecting sel.accepts

end Document

end PageGrader
