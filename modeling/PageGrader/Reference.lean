import PageGrader.Text.Blank

namespace PageGrader.Reference

/-- What follows the last `c`, or everything where there is none. -/
def afterLast (c : Char) (s : List Char) : List Char :=
  (s.reverse.takeWhile (· != c)).reverse

def path (s : List Char) : List Char :=
  s.takeWhile fun c => c != '?' && c != '#'

def fileName (s : List Char) : List Char := path (afterLast '/' s)

/-- Small letters, digits, dots, hyphens and underscores, at least one of them. -/
def isPlainName (s : List Char) : Bool :=
  !s.isEmpty && s.all fun c => c.isLower || c.isDigit || c == '.' || c == '_' || c == '-'

def startsWith (start : String) (s : List Char) : Bool := start.toList.isPrefixOf s

def endsWith (ending : String) (s : List Char) : Bool := ending.toList.isSuffixOf s

def isRemote (s : List Char) : Bool := startsWith "http" s || startsWith "//" s

def isExternal (s : List Char) : Bool := isRemote s || startsWith "#" s

def imageExtensions : List String :=
  ["png", "jpg", "jpeg", "gif", "webp", "avif", "bmp", "svg", "tif", "tiff", "ico"]

/-- Whether the last segment of the path ends like an image file. -/
def isImage (s : List Char) : Bool :=
  let name := afterLast '/' (path s)
  name.contains '.' &&
    imageExtensions.any fun e => e.toList == Text.lower (afterLast '.' name)

end PageGrader.Reference
