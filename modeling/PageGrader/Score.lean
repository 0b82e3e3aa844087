import PageGrader.Decimal.Binary64
import PageGrader.Finding

namespace PageGrader

inductive Verdict where
  | passed
  | improvable
  | failed
  deriving DecidableEq, Repr

namespace Verdict

/-- Sixty percent are enough to pass, half of that to be improvable. `reaches` says which marks are
reached. -/
def classify (reaches : Rat → Bool) : Verdict :=
  if reaches 60 then .passed
  else if reaches 30 then .improvable
  else .failed

def label : Verdict → String
  | .passed => "Passed"
  | .improvable => "Needs improvement"
  | .failed => "Failed"

def key : Verdict → String
  | .passed => "passed"
  | .improvable => "improvable"
  | .failed => "failed"

end Verdict

inductive Arithmetic where
  /-- The program ends. -/
  | checked
  /-- The sum comes around. -/
  | wrapping
  deriving DecidableEq, Repr

namespace Arithmetic

def Fits (n : Int) : Prop := -0x80000000 ≤ n ∧ n < 0x80000000

instance : DecidablePred Fits := fun _ => inferInstanceAs (Decidable (_ ∧ _))

def add (a : Arithmetic) (m n : Int) : Option Int :=
  match a with
  | checked => if Fits (m + n) then some (m + n) else none
  | wrapping => some ((m + n).bmod 0x100000000)

def sum (a : Arithmetic) (numbers : List Int) : Option Int := numbers.foldlM a.add 0

end Arithmetic

structure Score where
  total : Int
  passed : Nat
  failed : Nat
  deriving DecidableEq, Repr

namespace Score

def ofFindings (findings : List Finding) : Score where
  total := findings.foldr (fun f total => f.points + total) 0
  passed := (findings.filter Finding.passed).length
  failed := (findings.filter (!Finding.passed ·)).length

/-- The score whose total is kept in 32 bits. Where these hold all sums, it is the one above. -/
def kept? (a : Arithmetic) (findings : List Finding) : Option Score :=
  (a.sum (findings.map Finding.points)).map fun total => { ofFindings findings with total }

def count (s : Score) : Nat := s.passed + s.failed

def adjusted (s : Score) : Int := s.total + 2 * s.failed

/-- The part of the points that was reached, before it is cut off at both ends. -/
def ratio (s : Score) : Rat := (s.adjusted : Rat) / (s.count : Rat)

def cut (top q : Rat) : Rat :=
  if q < 0 then 0 else if top < q then top else q

/-- At least zero and at most one hundred; without findings it is zero. -/
def percentage (s : Score) : Rat :=
  if s.count = 0 then 0 else cut 100 (s.ratio * 100)

def verdict (s : Score) : Verdict := Verdict.classify fun mark => decide (mark ≤ s.percentage)

/-- The percentage in floating point: the quotient is rounded, then its hundredfold. -/
def shown (s : Score) : Decimal.Binary64 :=
  let ratio := if s.count = 0 then 0 else cut 1 s.ratio
  .ofRat (((Decimal.Binary64.ofRat ratio).toRat?.getD 0) * 100)

end Score

end PageGrader
