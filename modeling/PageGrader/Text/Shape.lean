import PageGrader.Text.Fold
import PageGrader.Text.Word

namespace PageGrader.Text

/-- The rest of a text after the shape, if the text starts with it. -/
abbrev Shape := List Char → Option (List Char)

/-- Where an occurrence starts and where it has ended, in characters from the front. -/
structure Span where
  start : Nat
  stop : Nat
  deriving DecidableEq, Repr

def Span.covers (s : Span) (n : Nat) : Bool := s.start ≤ n && n < s.stop

def Span.text (s : Span) (page : List Char) : List Char :=
  (page.drop s.start).take (s.stop - s.start)

namespace Shape

def one (p : Char → Bool) : Shape
  | c :: r => if p c then some r else none
  | [] => none

def caseless : List Char → Shape
  | [], s => some s
  | _ :: _, [] => none
  | c :: w, d :: r => if sameCase c d then caseless w r else none

def through (c : Char) : Shape
  | [] => none
  | d :: r => if d == c then some r else through c r

def blanks : Shape := fun s => some (s.dropWhile isBlank)

def wordEnd : Shape := fun s => if endsWord s then some s else none

def sequence : List Shape → Shape
  | [], s => some s
  | a :: rest, s => (a s).bind (sequence rest)

def occurs (shape : Shape) : List Char → Bool
  | [] => (shape []).isSome
  | c :: r => (shape (c :: r)).isSome || occurs shape r

/-- The occurrences in a text whose front is at position `place`; the next `busy` characters still
belong to the last one. -/
def spansFrom (shape : Shape) (place busy : Nat) : List Char → List Span
  | [] => []
  | c :: r =>
    match busy with
    | n + 1 => spansFrom shape (place + 1) n r
    | 0 =>
      match shape (c :: r) with
      | some rest =>
        let length := (c :: r).length - rest.length
        ⟨place, place + length⟩ :: spansFrom shape (place + 1) (length - 1) r
      | none => spansFrom shape (place + 1) 0 r

def spans (shape : Shape) (s : List Char) : List Span := spansFrom shape 0 0 s

def count (shape : Shape) (s : List Char) : Nat := (spans shape s).length

def position? (shape : Shape) (s : List Char) : Option Nat := (spans shape s).head?.map (·.start)

end Shape

end PageGrader.Text
