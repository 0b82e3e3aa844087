import PageGrader.Address.Host

namespace PageGrader

/-- An address with a host, whose path has at least one segment. -/
structure WebAddress where
  scheme : List Char
  /-- The user with the sign that ends it, or nothing. -/
  user : List Char
  host : List Char
  port : Option Nat
  path : List (List Char)
  query : Option (List Char) := none
  fragment : Option (List Char) := none
  deriving DecidableEq, Repr

/-- An address whose scheme is not one of the web is only told from what is no address at all; of it the
scheme is kept. -/
inductive Address where
  | web (a : WebAddress)
  /-- `isBase` says whether other addresses can be relative to it. -/
  | other (scheme : List Char) (isBase : Bool)
  deriving DecidableEq, Repr

namespace Address

/-- The port that need not be named, for the schemes of the web. -/
def usualPort? (scheme : List Char) : Option Nat :=
  [("http", 80), ("https", 443), ("ws", 80), ("wss", 443), ("ftp", 21)].findSome? fun (name, port) =>
    if name.toList == scheme then some port else none

def isSlash (c : Char) : Bool := c == '/' || c == '\\'

def endsHost (isWeb : Bool) (c : Char) : Bool :=
  c == '/' || c == '?' || c == '#' || (isWeb && c == '\\')

/-- Without control characters and spaces around it and without tabs and line breaks in it. -/
def cleaned (s : List Char) : List Char :=
  let outer (c : Char) : Bool := c.toNat ≤ 0x20
  (((s.dropWhile outer).reverse.dropWhile outer).reverse).filter fun c =>
    !(c == '\t' || c == '\n' || c == '\r')

def scheme? (s : List Char) : Option (List Char × List Char) :=
  let name := s.takeWhile fun c => c.isAlphanum || c == '+' || c == '-' || c == '.'
  match s.drop name.length with
  | ':' :: r => if name.head?.any Char.isAlpha then some (Text.lower name, r) else none
  | _ => none

def splitUser (s : List Char) : Option (List Char) × List Char :=
  let host := (s.reverse.takeWhile (· != '@')).reverse
  if host.length == s.length then (none, s)
  else (some (s.take (s.length - host.length - 1)), host)

def userText (s : List Char) : List Char :=
  let name := s.takeWhile (· != ':')
  let word := s.drop (name.length + 1)
  let text := escape inUser name ++ if word.isEmpty then [] else ':' :: escape inUser word
  if text.isEmpty then [] else text ++ ['@']

def splitHost (inBrackets : Bool) : List Char → List Char × List Char
  | [] => ([], [])
  | c :: r =>
    if c == ':' && !inBrackets then ([], c :: r)
    else
      let (host, rest) := splitHost (c == '[' || (inBrackets && c != ']')) r
      (c :: host, rest)

/-- The port after a colon; none at all is different from one that cannot be. -/
def port? (s : List Char) : Option (Option Nat) :=
  match s with
  | [] | [_] => some none
  | _ :: r =>
    if r.all Char.isDigit then ((Text.number? 10 r).filter (· ≤ 65535)).map some else none

def authority? (scheme s : List Char) :
    Option (List Char × List Char × Option Nat × List Char) := do
  let usual := usualPort? scheme
  let front := s.takeWhile (!endsHost usual.isSome ·)
  let (user, place) := splitUser front
  let (host, rest) := splitHost false place
  let text ← if usual.isSome then Host.usual? host else Host.keptHost? host
  let port ← port? rest
  if text.isEmpty && (usual.isSome || user.isSome || !rest.isEmpty) then none
  else return (userText (user.getD []), text, if port == usual then none else port,
    s.drop front.length)

def isHere (segment : List Char) : Bool :=
  ["." , "%2e"].any fun s => s.toList == Text.lower segment

def isAbove (segment : List Char) : Bool :=
  ["..", ".%2e", "%2e.", "%2e%2e"].any fun s => s.toList == Text.lower segment

def follow (place : List (List Char)) : List (List Char) → List (List Char)
  | [] => place
  | segment :: rest =>
    let place :=
      if isAbove segment then place.dropLast ++ if rest.isEmpty then [[]] else []
      else if isHere segment then place ++ if rest.isEmpty then [[]] else []
      else place ++ [escape inPath segment]
    follow place rest

def withTail (a : WebAddress) (s : List Char) : WebAddress :=
  let front := s.takeWhile (· != '#')
  { a with
    query := if front.isEmpty then none else some (escape inQuery (front.drop 1))
    fragment := match s.drop front.length with
      | _ :: r => some (escape inFragment r)
      | [] => none }

/-- Follows the path in front of a text from the place in the address. -/
def withPath (a : WebAddress) (s : List Char) : WebAddress :=
  let path := s.takeWhile fun c => c != '?' && c != '#'
  withTail { a with path := follow a.path (Text.splitAt isSlash path) } (s.drop path.length)

def absolute? (scheme s : List Char) : Option WebAddress :=
  (authority? scheme s).map fun (user, host, port, rest) =>
    let a : WebAddress := { scheme, user, host, port, path := [] }
    match rest with
    | c :: r => if isSlash c then withPath a r else withPath a rest
    | [] => withPath a []

def relative? (base : WebAddress) (s : List Char) : Option WebAddress :=
  match s with
  | [] => some { base with fragment := none }
  | '?' :: _ => some (withTail base s)
  | '#' :: r => some { base with fragment := some (escape inFragment r) }
  | '/' :: '/' :: r => absolute? base.scheme r
  | c :: r =>
    if !isSlash c then some (withPath { base with path := base.path.dropLast } s)
    else if r.head?.any isSlash then absolute? base.scheme (r.dropWhile isSlash)
    else some (withPath { base with path := [] } r)

def isFileHost (host : List Char) : Bool :=
  match host with
  | [] => true
  | [c, d] => (c.isAlpha && (d == ':' || d == '|')) || (Host.usual? host).isSome
  | _ => (Host.usual? host).isSome

def other? (scheme s : List Char) : Option Address :=
  if scheme == "file".toList then
    match s with
    | c :: d :: r =>
      if isSlash c && isSlash d && !isFileHost (r.takeWhile (!endsHost true ·)) then none
      else some (.other scheme true)
    | _ => some (.other scheme true)
  else
    match s with
    | '/' :: '/' :: r => (authority? scheme r).map fun _ => .other scheme true
    | '/' :: _ => some (.other scheme true)
    | _ => some (.other scheme false)

def relativeToOther? (scheme : List Char) (isBase : Bool) (s : List Char) : Option Address :=
  if s.head? == some '#' then some (.other scheme isBase)
  else if !isBase then none
  else
    match s with
    | '/' :: '/' :: _ => other? scheme s
    | _ => some (.other scheme true)

def resolve? (base : Option Address) (s : List Char) : Option Address :=
  let s := cleaned s
  match scheme? s with
  | some (scheme, r) =>
    if (usualPort? scheme).isNone then other? scheme r
    else
      let slashes := r.takeWhile isSlash
      let beyond := absolute? scheme (r.dropWhile isSlash)
      match base with
      | some (.web b) =>
        if slashes.length < 2 && b.scheme == scheme then (relative? b r).map .web
        else beyond.map .web
      | _ => beyond.map .web
  | none =>
    match base with
    | some (.web b) => (relative? b s).map .web
    | some (.other scheme isBase) => relativeToOther? scheme isBase s
    | none => none

def read? (s : List Char) : Option Address := resolve? none s

end Address

def WebAddress.text (a : WebAddress) : List Char :=
  a.scheme ++ "://".toList ++ a.user ++ a.host ++
    (match a.port with
      | some port => ':' :: Nat.toDigits 10 port
      | none => []) ++
    a.path.flatMap ('/' :: ·) ++
    (match a.query with
      | some query => '?' :: query
      | none => []) ++
    (match a.fragment with
      | some fragment => '#' :: fragment
      | none => [])

end PageGrader
