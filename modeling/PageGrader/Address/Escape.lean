import PageGrader.Text.Digits

namespace PageGrader.Address

def hexDigit (n : Nat) : Char := (Nat.digitChar n).toUpper

def escapeByte (b : UInt8) : List Char :=
  ['%', hexDigit (b.toNat / 16), hexDigit (b.toNat % 16)]

def isControl (c : Char) : Bool := c.toNat < 0x20 || 0x7F ≤ c.toNat

def inFragment (c : Char) : Bool := isControl c || [' ', '"', '<', '>', '`'].contains c

def inQuery (c : Char) : Bool := isControl c || [' ', '"', '#', '<', '>', '\''].contains c

def inPath (c : Char) : Bool := inFragment c || ['#', '?', '\x7b', '\x7d'].contains c

def inUser (c : Char) : Bool :=
  inPath c || ['/', ':', ';', '=', '@', '[', '\\', ']', '^', '|'].contains c

def escape (kind : Char → Bool) (s : List Char) : List Char :=
  s.flatMap fun c => if kind c then (String.utf8EncodeChar c).flatMap escapeByte else [c]

/-- The bytes of a text in which escapes stand for bytes; a percent sign without two digits stands
for itself. -/
def unescape : List Char → List UInt8
  | '%' :: a :: b :: r =>
    match Text.number? 16 [a, b] with
    | some n => UInt8.ofNat n :: unescape r
    | none => 0x25 :: unescape (a :: b :: r)
  | c :: r => String.utf8EncodeChar c ++ unescape r
  | [] => []

end PageGrader.Address
