import PageGrader.Decimal.Text

namespace PageGrader

/-- Seconds since the first of January 1970. A thousand million nanoseconds and more stand for a leap
second. -/
structure Moment where
  seconds : Int
  nanos : Nat := 0
  deriving DecidableEq, Repr

namespace Moment

structure Date where
  year : Int
  month : Nat
  day : Nat
  deriving DecidableEq, Repr

/-- The date of a day counted from the first of January 1970. Years are taken to begin in March, so
that a leap day ends its year. -/
def dateOf (day : Int) : Date :=
  let shifted := day + 719468
  let era := shifted / 146097
  let inEra := (shifted % 146097).toNat
  let year := (inEra - inEra / 1460 + inEra / 36524 - inEra / 146096) / 365
  let inYear := inEra - (365 * year + year / 4 - year / 100)
  let m := (5 * inYear + 2) / 153
  let month := if m < 10 then m + 3 else m - 9
  { year := year + era * 400 + (if month ≤ 2 then 1 else 0)
    month
    day := inYear - (153 * m + 2) / 5 + 1 }

def yearText (year : Int) : List Char :=
  if year < 0 then '-' :: Decimal.padded 4 year.natAbs
  else if 9999 < year then '+' :: Decimal.padded 4 year.natAbs
  else Decimal.padded 4 year.natAbs

def dateText (t : Moment) : List Char :=
  let date := dateOf (t.seconds / 86400)
  yearText date.year ++ '-' :: Decimal.padded 2 date.month ++ '-' :: Decimal.padded 2 date.day

def clockText (t : Moment) : List Char :=
  let inDay := (t.seconds % 86400).toNat
  let second := inDay % 60 + t.nanos / 1000000000
  Decimal.padded 2 (inDay / 3600) ++ ':' :: Decimal.padded 2 (inDay / 60 % 60) ++
    ':' :: Decimal.padded 2 second

/-- No digits, or three, six or nine of them, as few as are exact. -/
def fractionText (t : Moment) : List Char :=
  let nanos := t.nanos % 1000000000
  if nanos == 0 then []
  else if nanos % 1000000 == 0 then '.' :: Decimal.padded 3 (nanos / 1000000)
  else if nanos % 1000 == 0 then '.' :: Decimal.padded 6 (nanos / 1000)
  else '.' :: Decimal.padded 9 nanos

def inData (t : Moment) : String :=
  String.ofList (dateText t ++ 'T' :: clockText t ++ fractionText t ++ "+00:00".toList)

def inText (t : Moment) : String :=
  String.ofList (dateText t ++ ' ' :: clockText t ++ " UTC".toList)

end Moment

end PageGrader
