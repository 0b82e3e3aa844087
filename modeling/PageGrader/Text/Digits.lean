namespace PageGrader.Text

def digitValue (c : Char) : Option Nat :=
  if c.isDigit then some (c.toNat - 48)
  else if 'a' ≤ c && c ≤ 'z' then some (c.toNat - 87)
  else if 'A' ≤ c && c ≤ 'Z' then some (c.toNat - 55)
  else none

/-- The number some digits stand for; without digits it is zero. -/
def number? (base : Nat) : List Char → Option Nat :=
  go 0
where
  go (n : Nat) : List Char → Option Nat
    | [] => some n
    | c :: r =>
      match digitValue c with
      | some d => if d < base then go (n * base + d) r else none
      | none => none

end PageGrader.Text
