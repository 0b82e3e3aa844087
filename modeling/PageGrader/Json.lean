import PageGrader.Decimal.Text

namespace PageGrader

inductive Json where
  | null
  | bool (b : Bool)
  | int (i : Int)
  | real (x : Decimal.Binary64)
  | str (s : String)
  | arr (items : List Json)
  | obj (fields : List (String × Json))

namespace Json

def hexDigits (n : Nat) : List Char :=
  let ds := Nat.toDigits 16 n
  List.replicate (4 - ds.length) '0' ++ ds

/-- A character inside a string; only quotes, backslashes and control characters are escaped. -/
def escaped (c : Char) : List Char :=
  match c with
  | '"' => ['\\', '"']
  | '\\' => ['\\', '\\']
  | '\n' => ['\\', 'n']
  | '\r' => ['\\', 'r']
  | '\t' => ['\\', 't']
  | '\x08' => ['\\', 'b']
  | '\x0c' => ['\\', 'f']
  | _ => if c.toNat < 0x20 then '\\' :: 'u' :: hexDigits c.toNat else [c]

def quoted (s : String) : String :=
  "\"" ++ String.ofList (s.toList.flatMap escaped) ++ "\""

def leaf : Json → String
  | null => "null"
  | bool b => if b then "true" else "false"
  | int i => toString i
  | real x => x.text
  | str s => quoted s
  | arr _ => "[]"
  | obj _ => "\x7b\x7d"

def newline (depth : Nat) : String :=
  "\n" ++ String.ofList (List.replicate (2 * depth) ' ')

mutual

def compact : Json → String
  | arr items => "[" ++ compactItems items ++ "]"
  | obj fields => "\x7b" ++ compactFields fields ++ "\x7d"
  | j => leaf j

def compactItems : List Json → String
  | [] => ""
  | [j] => compact j
  | j :: rest => compact j ++ "," ++ compactItems rest

def compactFields : List (String × Json) → String
  | [] => ""
  | [(k, j)] => quoted k ++ ":" ++ compact j
  | (k, j) :: rest => quoted k ++ ":" ++ compact j ++ "," ++ compactFields rest

end

mutual

def pretty (depth : Nat) : Json → String
  | arr (j :: rest) =>
    "[" ++ newline (depth + 1) ++ pretty (depth + 1) j ++ prettyItems (depth + 1) rest ++
      newline depth ++ "]"
  | obj ((k, j) :: rest) =>
    "\x7b" ++ newline (depth + 1) ++ quoted k ++ ": " ++ pretty (depth + 1) j ++
      prettyFields (depth + 1) rest ++ newline depth ++ "\x7d"
  | j => leaf j

def prettyItems (depth : Nat) : List Json → String
  | [] => ""
  | j :: rest => "," ++ newline depth ++ pretty depth j ++ prettyItems depth rest

def prettyFields (depth : Nat) : List (String × Json) → String
  | [] => ""
  | (k, j) :: rest =>
    "," ++ newline depth ++ quoted k ++ ": " ++ pretty depth j ++ prettyFields depth rest

end

/-- The value of a field; of two with one name the last counts. -/
def field? (name : String) : Json → Option Json
  | obj fields => fields.reverse.lookup name
  | _ => none

/-- The fields of a record, given by their names or all of them in order. -/
def record? (names : List String) : Json → Option (List (Option Json))
  | obj fields => some (names.map fun name => (obj fields).field? name)
  | arr items => if items.length = names.length then some (items.map some) else none
  | _ => none

def word? : Json → Option Nat
  | int (.ofNat n) => if n < 0x10000000000000000 then some n else none
  | _ => none

def bool? : Json → Option Bool
  | bool b => some b
  | _ => none

def str? : Json → Option String
  | str s => some s
  | _ => none

def optional? {α : Type} (read : Json → Option α) : Option Json → Option (Option α)
  | none | some null => some none
  | some j => (read j).map some

def skip (s : List Char) : List Char :=
  s.dropWhile fun c => c == ' ' || c == '\n' || c == '\r' || c == '\t'

def hexValue (s : List Char) : Option Nat :=
  if s.length == 4 then
    s.foldl (fun n c => n.bind fun n =>
      if c.isDigit then some (n * 16 + (c.toNat - 48))
      else if 'a' ≤ c && c ≤ 'f' then some (n * 16 + (c.toNat - 87))
      else if 'A' ≤ c && c ≤ 'F' then some (n * 16 + (c.toNat - 55))
      else none) (some 0)
  else none

/-- The character of an escape with four digits, or with two pairs of them. -/
def unicode (s : List Char) : Option (Char × List Char) := do
  let high ← hexValue (s.take 4)
  let rest := s.drop 4
  if 0xD800 ≤ high && high < 0xDC00 then
    match rest with
    | '\\' :: 'u' :: r =>
      let low ← hexValue (r.take 4)
      if 0xDC00 ≤ low && low < 0xE000 then
        return (Char.ofNat (0x10000 + (high - 0xD800) * 0x400 + (low - 0xDC00)), r.drop 4)
      else none
    | _ => none
  else if 0xDC00 ≤ high && high < 0xE000 then none
  else return (Char.ofNat high, rest)

def escapeValue : Char → Option Char
  | 'n' => some '\n'
  | 'r' => some '\r'
  | 't' => some '\t'
  | 'b' => some '\x08'
  | 'f' => some '\x0c'
  | c => if c == '"' || c == '\\' || c == '/' then some c else none

/-- The rest of a string after its opening quote, latest character first in `read`. -/
def readString : Nat → List Char → List Char → Option (String × List Char)
  | 0, _, _ => none
  | n + 1, read, s =>
    match s with
    | '"' :: r => some (String.ofList read.reverse, r)
    | '\\' :: 'u' :: r => (unicode r).bind fun (c, r) => readString n (c :: read) r
    | '\\' :: c :: r => (escapeValue c).bind fun c => readString n (c :: read) r
    | c :: r => if c.toNat < 0x20 then none else readString n (c :: read) r
    | [] => none

def natOf (ds : List Char) : Nat := ds.foldl (fun n c => n * 10 + (c.toNat - 48)) 0

/-- A number: an integer unless it has a fraction, an exponent, or is minus zero. -/
def readNumber (s : List Char) : Option (Json × List Char) :=
  let (negative, s) := match s with
    | '-' :: r => (true, r)
    | _ => (false, s)
  let whole := s.takeWhile Char.isDigit
  let s := s.dropWhile Char.isDigit
  let (fraction, s) := match s with
    | '.' :: r => (r.takeWhile Char.isDigit, r.dropWhile Char.isDigit)
    | _ => ([], s)
  let (power, s, marked) : Int × List Char × Bool := match s with
    | c :: r =>
      if c == 'e' || c == 'E' then
        match r with
        | '-' :: r => (-(natOf (r.takeWhile Char.isDigit) : Int), r.dropWhile Char.isDigit, true)
        | '+' :: r => (natOf (r.takeWhile Char.isDigit), r.dropWhile Char.isDigit, true)
        | r => (natOf (r.takeWhile Char.isDigit), r.dropWhile Char.isDigit, true)
      else (0, s, false)
    | [] => (0, [], false)
  if whole.isEmpty then none
  else if fraction.isEmpty && !marked && !(negative && natOf whole == 0) then
    let n : Int := natOf whole
    some (.int (if negative then -n else n), s)
  else
    let (num, den) := Decimal.shifted (natOf (whole ++ fraction)) 1 (fraction.length - power)
    some (.real (.ofFraction negative num den), s)

def literal (word : String) (j : Json) (s : List Char) : Option (Json × List Char) :=
  if word.toList.isPrefixOf s then some (j, s.drop word.length) else none

mutual

def readValue : Nat → List Char → Option (Json × List Char)
  | 0, _ => none
  | n + 1, s =>
    match skip s with
    | '"' :: r => (readString (r.length + 1) [] r).map fun (t, r) => (.str t, r)
    | '[' :: r =>
      match skip r with
      | ']' :: r => some (.arr [], r)
      | r => (readItems n r).map fun (items, r) => (.arr items, r)
    | '\x7b' :: r =>
      match skip r with
      | '\x7d' :: r => some (.obj [], r)
      | r => (readFields n r).map fun (fields, r) => (.obj fields, r)
    | 'n' :: r => literal "null" .null ('n' :: r)
    | 't' :: r => literal "true" (.bool true) ('t' :: r)
    | 'f' :: r => literal "false" (.bool false) ('f' :: r)
    | r => readNumber r

def readItems : Nat → List Char → Option (List Json × List Char)
  | 0, _ => none
  | n + 1, s =>
    (readValue n s).bind fun (j, r) =>
      match skip r with
      | ',' :: r => (readItems n r).map fun (rest, r) => (j :: rest, r)
      | ']' :: r => some ([j], r)
      | _ => none

def readFields : Nat → List Char → Option (List (String × Json) × List Char)
  | 0, _ => none
  | n + 1, s =>
    match skip s with
    | '"' :: r =>
      (readString (r.length + 1) [] r).bind fun (k, r) =>
        match skip r with
        | ':' :: r =>
          (readValue n r).bind fun (j, r) =>
            match skip r with
            | ',' :: r => (readFields n r).map fun (rest, r) => ((k, j) :: rest, r)
            | '\x7d' :: r => some ([(k, j)], r)
            | _ => none
        | _ => none
    | _ => none

end

/-- Reads a whole text as one value; each step uses up at least one character. -/
def read? (text : String) : Option Json :=
  let s := text.toList
  match readValue (2 * s.length + 2) s with
  | some (j, rest) => if (skip rest).isEmpty then some j else none
  | none => none

end Json

end PageGrader
