import PageGrader.Decimal.Binary64

namespace PageGrader.Decimal

def digits (n : Nat) : List Char := Nat.toDigits 10 n

def padded (width n : Nat) : List Char :=
  List.replicate (width - (digits n).length) '0' ++ digits n

/-- Positional below ten to the sixteenth and down to five places of zeros, always with a fraction;
otherwise with a power of ten. -/
def place (ds : List Char) (k : Int) : List Char :=
  let point : Int := ds.length + k
  if 0 ≤ k && point ≤ 16 then ds ++ List.replicate k.toNat '0' ++ ['.', '0']
  else if 0 < point && point ≤ 16 then ds.take point.toNat ++ '.' :: ds.drop point.toNat
  else if -5 < point && point ≤ 0 then
    '0' :: '.' :: List.replicate (-point).toNat '0' ++ ds
  else
    let exponent := 'e' :: (toString (point - 1)).toList
    match ds with
    | [d] => d :: exponent
    | d :: more => d :: '.' :: more ++ exponent
    | [] => []

/-- The shortest decimal of a value; a value that is not finite has none. -/
def Binary64.text : Binary64 → String
  | .nan | .infinite _ => "null"
  | .finite negative m e =>
    let body :=
      if m == 0 then ['0', '.', '0']
      else
        let (g, k) := shortest m e
        place (digits g) k
    String.ofList (if negative then '-' :: body else body)

def onePlace (x : Binary64) : String :=
  match x with
  | .nan => "NaN"
  | .infinite negative => if negative then "-inf" else "inf"
  | .finite negative m e =>
    let (num, den) := scaled (m * 10) 1 (-e)
    let tenths := roundDiv num den
    let body := digits (tenths / 10) ++ '.' :: digits (tenths % 10)
    String.ofList (if negative then '-' :: body else body)

end PageGrader.Decimal
