namespace PageGrader.Decimal

inductive Binary64 where
  | nan
  | infinite (negative : Bool)
  | finite (negative : Bool) (mantissa : Nat) (exponent : Int)
  deriving DecidableEq, Repr

/-- The quotient rounded to the nearest integer, a half to the even one. -/
def roundDiv (num den : Nat) : Nat :=
  let q := num / den
  let twice := 2 * (num % den)
  if twice < den then q
  else if den < twice then q + 1
  else if q % 2 == 0 then q else q + 1

def scaled (num den : Nat) (e : Int) : Nat × Nat :=
  if e < 0 then (num * Nat.pow 2 (-e).toNat, den) else (num, den * Nat.pow 2 e.toNat)

namespace Binary64

def least : Int := -1074

def leastFull : Nat := Nat.pow 2 52

/-- The exponent `num / den` is rounded at: it leaves fifty-three binary digits before the point, or
fewer where the least exponent does. The first guess may be one too high. -/
def exponent (num den : Nat) : Int :=
  let guess : Int := (num.log2 : Int) - (den.log2 : Int) - 52
  let s := scaled num den guess
  max least (if s.1 < s.2 * leastFull then guess - 1 else guess)

/-- The value with these digits at this exponent; one digit too many is carried. -/
def carried (negative : Bool) (m : Nat) (e : Int) : Binary64 :=
  let (m, e) := if m == 2 * leastFull then (leastFull, e + 1) else (m, e)
  if 971 < e then .infinite negative else .finite negative m e

def ofFraction (negative : Bool) (num den : Nat) : Binary64 :=
  if num == 0 then .finite negative 0 least
  else
    let e := exponent num den
    let s := scaled num den e
    carried negative (roundDiv s.1 s.2) e

def ofRat (q : Rat) : Binary64 :=
  ofFraction (q < 0) q.num.natAbs q.den

def toRat? : Binary64 → Option Rat
  | .finite negative m e =>
    let size : Rat := if e < 0 then mkRat m (Nat.pow 2 (-e).toNat) else (m * Nat.pow 2 e.toNat : Nat)
    some (if negative then -size else size)
  | _ => none

/-- Whether the value is at least `q`; what is not a number reaches nothing. -/
def reaches (x : Binary64) (q : Rat) : Bool :=
  match x, x.toRat? with
  | .infinite negative, _ => !negative
  | _, some r => q ≤ r
  | _, none => false

end Binary64

/-- The number of decimal digits before the point of `num / den`, or minus the number of zeros that
follow the point; the first argument bounds the search below one. -/
def magnitude (bound num den : Nat) : Int :=
  if den ≤ num then ((Nat.toDigits 10 (num / den)).length : Int)
  else below bound 0 (num * 10)
where
  below : Nat → Nat → Nat → Int
    | 0, zeros, _ => -(zeros : Int)
    | n + 1, zeros, num => if den ≤ num then -(zeros : Int) else below n (zeros + 1) (num * 10)

def shifted (num den : Nat) (k : Int) : Nat × Nat :=
  if k < 0 then (num * Nat.pow 10 (-k).toNat, den) else (num, den * Nat.pow 10 k.toNat)

/-- The multiple of `10^k` nearest to the middle of the three fractions that still lies between the
outer two, if there is one. All have the denominator `den`. -/
def gridPoint (low mid high den : Nat) (closed : Bool) (k : Int) : Option Nat :=
  let (n, d) := shifted mid den k
  let (l, ld) := shifted low den k
  let (h, hd) := shifted high den k
  let inside (g : Nat) : Bool :=
    if closed then l ≤ g * ld && g * hd ≤ h else l < g * ld && g * hd < h
  let down := n / d
  let nearest := roundDiv n d
  if inside nearest then some nearest
  else if inside down then some down
  else if inside (down + 1) then some (down + 1)
  else none

/-- The first grid, from coarse to fine, with a point that is read back as the value. -/
def search (low mid high den : Nat) (closed : Bool) (k : Int) : Nat → Nat × Int
  | 0 => (0, 0)
  | n + 1 =>
    match gridPoint low mid high den closed k with
    | some g => (g, k)
    | none => search low mid high den closed (k - 1) n

/-- Digits and a power of ten: the shortest decimal that is read back as `m · 2^e`, and of those the
nearest. -/
def shortest (m : Nat) (e : Int) : Nat × Int :=
  let edge := m == Binary64.leastFull && Binary64.least < e
  let (mid, den) := scaled (4 * m) 4 (-e)
  let (low, _) := scaled (4 * m - (if edge then 1 else 2)) 4 (-e)
  let (high, _) := scaled (4 * m + 2) 4 (-e)
  search low mid high den (m % 2 == 0) (magnitude 400 mid den) 20

end PageGrader.Decimal
