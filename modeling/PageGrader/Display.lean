import PageGrader.Finding
import PageGrader.Line
import PageGrader.Sorting

namespace PageGrader

namespace Finding

/-- Failures come before what passed, and errors before warnings. -/
def rank (f : Finding) : Nat :=
  (if f.passed then 2 else 0) + (if f.criterion.severity = .error then 0 else 1)

def label (f : Finding) : String :=
  if f.passed then "✅ PASSED"
  else match f.criterion.severity with
    | .error => "❌ ERROR"
    | .warning => "⚠️  WARNING"

def line? (f : Finding) (page : List Char) : Option Nat :=
  f.outcome.evidence.head?.bind fun h => Line.find? h page

end Finding

namespace Display

/-- The order for reading; findings of one rank keep the order of the run. -/
def order (findings : List Finding) : List Finding := sortOn Finding.rank findings

def signed (points : Int) : String :=
  if 0 < points then "+" ++ toString points else toString points

/-- At most `max` characters, unless `max` is less than the three points that mark a cut. -/
def truncate (max : Nat) (text : String) : String :=
  let chars := text.toList
  if chars.length ≤ max then text
  else String.ofList (chars.take (max - 3) ++ ['.', '.', '.'])

def left (width : Nat) (text : String) : String :=
  text ++ String.ofList (List.replicate (width - text.length) ' ')

def right (width : Nat) (text : String) : String :=
  String.ofList (List.replicate (width - text.length) ' ') ++ text

def rule (mark : Char) (width : Nat) : String := String.ofList (List.replicate width mark)

end Display

end PageGrader
