import PageGrader.Forest

namespace PageGrader.Heading

/-- The number a text of decimal digits stands for, with or without a plus sign, up to 255. -/
def byte? (s : List Char) : Option Nat :=
  let ds := match s with
    | '+' :: r => r
    | _ => s
  let n := ds.foldl (fun n c => n * 10 + (c.toNat - '0'.toNat)) 0
  if !ds.isEmpty && ds.all Char.isDigit && n ≤ 255 then some n else none

/-- The level a name gives: the number from one to six after an `h`. -/
def levelOf? (name : String) : Option Nat :=
  match name.toList with
  | 'h' :: r => (byte? r).filter fun n => 1 ≤ n && n ≤ 6
  | _ => none

end PageGrader.Heading
