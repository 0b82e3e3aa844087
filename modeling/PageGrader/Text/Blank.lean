namespace PageGrader.Text

def isBlank (c : Char) : Bool :=
  let n := c.toNat
  (9 ≤ n && n ≤ 13) || n == 0x20 || n == 0x85 || n == 0xA0 || n == 0x1680 ||
    (0x2000 ≤ n && n ≤ 0x200A) || n == 0x2028 || n == 0x2029 || n == 0x202F || n == 0x205F ||
    n == 0x3000

def isMarkupSpace (c : Char) : Bool :=
  c == '\t' || c == '\n' || c == '\x0c' || c == '\r' || c == ' '

def trim (s : List Char) : List Char :=
  ((s.dropWhile isBlank).reverse.dropWhile isBlank).reverse

def trimmed (s : String) : String :=
  String.ofList (trim s.toList)

/-- ASCII capitals become small letters; every other character stays. -/
def lower (s : List Char) : List Char :=
  s.map Char.toLower

def lowered (s : String) : String :=
  String.ofList (lower s.toList)

def sameLetters (s t : String) : Bool :=
  lower s.toList == lower t.toList

def holds (part : List Char) : List Char → Bool
  | [] => part.isEmpty
  | c :: r => part.isPrefixOf (c :: r) || holds part r

/-- The pieces between separators; `n` separators make `n + 1` pieces. -/
def splitAt (isSeparator : Char → Bool) : List Char → List (List Char)
  | [] => [[]]
  | c :: r =>
    if isSeparator c then [] :: splitAt isSeparator r
    else match splitAt isSeparator r with
      | [] => [[c]]
      | piece :: rest => (c :: piece) :: rest

def words (s : List Char) : List (List Char) :=
  (splitAt isMarkupSpace s).filter (!·.isEmpty)

end PageGrader.Text
