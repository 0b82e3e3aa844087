import PageGrader.Address.Escape
import PageGrader.Address.Punycode
import PageGrader.Text.Blank
import PageGrader.Text.Fold

namespace PageGrader.Address.Host

/-- One part of a number with points: decimal, octal after a zero, or hexadecimal. -/
def part? (s : List Char) : Option Nat :=
  match s with
  | [] => none
  | '0' :: 'x' :: r | '0' :: 'X' :: r => Text.number? 16 r
  | '0' :: c :: r => Text.number? 8 (c :: r)
  | _ => Text.number? 10 s

/-- The parts between points; one point at the end does not count. -/
def parts (s : List Char) : List (List Char) :=
  let all := Text.splitAt (· == '.') s
  if 1 < all.length && all.getLast? == some [] then all.dropLast else all

def endsInNumber (s : List Char) : Bool :=
  match (parts s).getLast? with
  | some last => !last.isEmpty && (last.all Char.isDigit || (part? last).isSome)
  | none => false

/-- The number of up to four parts, the last of which fills all that is left. -/
def fourBytes? (s : List Char) : Option Nat := do
  let numbers ← (parts s).mapM part?
  let last ← numbers.getLast?
  let first := numbers.dropLast
  if 3 < first.length || first.any (255 < ·) || Nat.pow 256 (4 - first.length) ≤ last then none
  else return first.foldr (fun n rest => n * 0x1000000 + rest / 256) 0 + last

def fourBytesText (n : Nat) : List Char :=
  ['.'].intercalate <|
    [n / 0x1000000, n / 0x10000 % 256, n / 256 % 256, n % 256].map (Nat.toDigits 10)

def group? (s : List Char) : Option Nat :=
  if s.isEmpty || 4 < s.length then none else Text.number? 16 s

def byte? (s : List Char) : Option Nat :=
  if s.isEmpty || (s.head? == some '0' && 1 < s.length) then none
  else (Text.number? 10 s).filter (· ≤ 255)

def mixed? (s : List Char) : Option (List Nat) :=
  match (Text.splitAt (· == '.') s).mapM byte? with
  | some [a, b, c, d] => some [a * 256 + b, c * 256 + d]
  | _ => none

def groups? (s : List Char) : Option (List Nat) :=
  if s.isEmpty then some []
  else
    let pieces := Text.splitAt (· == ':') s
    match (pieces.getLast?).bind mixed? with
    | some last => (pieces.dropLast.mapM group?).map (· ++ last)
    | none => pieces.mapM group?

def aroundGap : List Char → Option (List Char × List Char)
  | ':' :: ':' :: r => some ([], r)
  | c :: r => (aroundGap r).map fun (before, after) => (c :: before, after)
  | [] => none

def eightGroups? (s : List Char) : Option (List Nat) :=
  match aroundGap s with
  | some (before, after) => do
    let left ← if before.contains '.' then none else groups? before
    let right ← groups? after
    let known := left.length + right.length
    if known < 8 then return left ++ List.replicate (8 - known) 0 ++ right else none
  | none => (groups? s).filter (·.length == 8)

def zeros (groups : List Nat) : Nat := (groups.takeWhile (· == 0)).length

/-- The longest run of zeros, at least two of them: its place and its length. -/
def gap (groups : List Nat) : Nat × Nat :=
  (List.range groups.length).foldl (fun best place =>
    let length := zeros (groups.drop place)
    if 1 < length && best.2 < length then (place, length) else best) (0, 0)

def groupsText (groups : List Nat) : List Char :=
  [':'].intercalate (groups.map (Nat.toDigits 16))

def eightGroupsText (groups : List Nat) : List Char :=
  let (place, length) := gap groups
  if length == 0 then groupsText groups
  else groupsText (groups.take place) ++ ':' :: ':' :: groupsText (groups.drop (place + length))

def isForbidden (c : Char) : Bool :=
  c.toNat ≤ 0x20 || c.toNat == 0x7F || "#/:<>?@[\\]^|%".toList.contains c

def isIgnored (c : Char) : Bool :=
  [0xAD, 0x200B, 0x2060, 0xFEFF].contains c.toNat

/-- Small letters for capitals, and the usual letters and points for their wide forms. This is all that is
done to characters beyond ASCII: they are not put in a normal form, and none of them makes a name invalid. -/
def mapped (c : Char) : Char :=
  let n := c.toNat
  if n == 0x3002 || n == 0xFF61 then '.'
  else if 0xFF01 ≤ n && n ≤ 0xFF5E then Text.fold (Char.ofNat (n - 0xFEE0))
  else Text.fold c

def asciiLabel (label : List Char) : List Char :=
  if label.all (·.toNat < 0x80) then label
  else 'x' :: 'n' :: '-' :: '-' :: Punycode.encode label

def name? (s : List Char) : Option (List Char) :=
  match String.fromUTF8? ⟨(unescape s).toArray⟩ with
  | none => none
  | some text =>
    let labels := Text.splitAt (· == '.') ((text.toList.filter (!isIgnored ·)).map mapped)
    let name := ['.'].intercalate (labels.map asciiLabel)
    if name.isEmpty || name.any isForbidden then none else some name

def bracketed? (s : List Char) : Option (List Char) :=
  if s.getLast? == some ']' then
    (eightGroups? (s.drop 1).dropLast).map fun groups => '[' :: eightGroupsText groups ++ [']']
  else none

def usual? (s : List Char) : Option (List Char) :=
  if s.head? == some '[' then bracketed? s
  else (name? s).bind fun name =>
    if endsInNumber name then (fourBytes? name).map fourBytesText else some name

def keptHost? (s : List Char) : Option (List Char) :=
  if s.head? == some '[' then bracketed? s
  else if s.any fun c => c == '\x00' || " #/:<>?@[\\]^|".toList.contains c then none
  else some (escape isControl s)

end PageGrader.Address.Host
