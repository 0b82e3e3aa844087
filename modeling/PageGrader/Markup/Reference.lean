import PageGrader.Markup.Reference.Names
import PageGrader.Text.Blank
import Std.Data.HashMap

namespace PageGrader.Markup.Reference

def digitValue (base : Nat) (c : Char) : Option Nat :=
  let n := c.toNat
  let value :=
    if '0'.toNat ≤ n && n ≤ '9'.toNat then some (n - 48)
    else if 'a'.toNat ≤ n && n ≤ 'f'.toNat then some (n - 87)
    else if 'A'.toNat ≤ n && n ≤ 'F'.toNat then some (n - 55)
    else none
  value.filter (· < base)

def numberOf (base : Nat) (digits : List Char) : Nat :=
  digits.foldl (fun n c => n * base + (digitValue base c).getD 0) 0

def entry (text : String) : Option (String × List Char) :=
  match text.splitOn "=" with
  | [name, codes] =>
    some (name, (codes.splitOn "+").map fun code => Char.ofNat (numberOf 16 code.toList))
  | _ => none

def names : Std.HashMap String (List Char) :=
  (nameTable.flatMap (·.splitOn " ")).foldl
    (fun found text => match entry text with
      | some (name, chars) => found.insert name chars
      | none => found) ∅

/-- What the code points 80 to 9F of the old Western code page mean. -/
def westernControls : List Nat :=
  [0x20AC, 0x81, 0x201A, 0x192, 0x201E, 0x2026, 0x2020, 0x2021, 0x2C6, 0x2030, 0x160, 0x2039, 0x152,
   0x8D, 0x17D, 0x8F, 0x90, 0x2018, 0x2019, 0x201C, 0x201D, 0x2022, 0x2013, 0x2014, 0x2DC, 0x2122,
   0x161, 0x203A, 0x153, 0x9D, 0x17E, 0x178]

def replacement : Char := '\ufffd'

/-- The character with number `n`; numbers without a character give the replacement character. -/
def charOf (n : Nat) : Char :=
  if n == 0 || n > 0x10FFFF || (0xD800 ≤ n && n ≤ 0xDFFF) then replacement
  else if 0x80 ≤ n && n ≤ 0x9F then Char.ofNat (westernControls.getD (n - 0x80) n)
  else Char.ofNat n

/-- Whether `c` can follow `seen`, what stands after the ampersand so far. -/
def continues (seen : List Char) (c : Char) : Bool :=
  match seen with
  | [] => c.isAlphanum || c == '#'
  | ['#'] => c.isDigit || c == 'x' || c == 'X'
  | '#' :: 'x' :: _ | '#' :: 'X' :: _ => (digitValue 16 c).isSome
  | '#' :: _ => c.isDigit
  | _ => c.isAlphanum

/-- The meaning of a reference. `takesNext` says whether the character after it belongs to it,
`lapse` whether a numeric reference lacks its semicolon. -/
structure Meaning where
  chars : List Char
  takesNext : Bool := false
  lapse : Bool := false
  deriving Repr

def literally (seen : List Char) : Meaning := ⟨'&' :: seen, false, false⟩

def numeric (seen digits : List Char) (base : Nat) (next : Option Char) : Meaning :=
  if digits.isEmpty then literally seen
  else ⟨[charOf (numberOf base digits)], next == some ';', next != some ';'⟩

/-- The longest name at the start of `seen`, trying lengths from `n` down. -/
def longest (seen : List Char) : Nat → Option (Nat × List Char)
  | 0 => none
  | n + 1 =>
    match names[String.ofList (seen.take (n + 1))]? with
    | some chars => some (n + 1, chars)
    | none => longest seen n

/-- A name without its semicolon is taken literally inside an attribute value when a letter, a
digit or an equals sign follows it. -/
def named (inAttribute : Bool) (seen : List Char) (next : Option Char) : Meaning :=
  match (if next == some ';' then names[String.ofList (seen ++ [';'])]? else none) with
  | some chars => ⟨chars, true, false⟩
  | none =>
    match longest seen seen.length with
    | none => literally seen
    | some (n, chars) =>
      let rest := seen.drop n
      let after := rest.head?.or next
      if inAttribute && after.any (fun c => c == '=' || c.isAlphanum) then literally seen
      else ⟨chars ++ rest, false, false⟩

/-- The meaning of `seen`, with `next` the character that ended it. -/
def resolve (inAttribute : Bool) (seen : List Char) (next : Option Char) : Meaning :=
  match seen with
  | [] => literally []
  | '#' :: 'x' :: digits | '#' :: 'X' :: digits => numeric seen digits 16 next
  | '#' :: digits => numeric seen digits 10 next
  | _ => named inAttribute seen next

end PageGrader.Markup.Reference
