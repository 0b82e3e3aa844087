namespace PageGrader.Address.Punycode

def digit (n : Nat) : Char :=
  if n < 26 then Char.ofNat (97 + n) else Char.ofNat (22 + n)

def threshold (place bias : Nat) : Nat := max 1 (min 26 (place - bias))

/-- Divides until the difference is small; counts the places that takes. -/
def settle : Nat → Nat → Nat → Nat
  | 0, places, _ => places
  | n + 1, places, delta =>
    if 455 < delta then settle n (places + 36) (delta / 35)
    else places + 36 * delta / (delta + 38)

/-- The bias after a difference, `count` characters being written with it. -/
def adapt (delta count : Nat) (isFirst : Bool) : Nat :=
  let delta := if isFirst then delta / 700 else delta / 2
  let delta := delta + delta / count
  settle delta 0 delta

def digits (bias : Nat) : Nat → Nat → Nat → List Char
  | 0, _, _ => []
  | n + 1, place, q =>
    let t := threshold place bias
    if q < t then [digit q]
    else digit (t + (q - t) % (36 - t)) :: digits bias n (place + 36) ((q - t) / (36 - t))

structure State where
  written : List Char
  delta : Nat := 0
  bias : Nat := 72
  count : Nat
  isFirst : Bool := true

/-- Passes one character of the label while those with the number `m` are written. -/
def pass (m : Nat) (s : State) (c : Char) : State :=
  if c.toNat < m then { s with delta := s.delta + 1 }
  else if c.toNat == m then
    { written := s.written ++ digits s.bias (s.delta + 1) 36 s.delta
      delta := 0
      bias := adapt s.delta (s.count + 1) s.isFirst
      count := s.count + 1
      isFirst := false }
  else s

/-- Writes the characters with the given numbers, which grow; `n` is the least number not yet
passed. -/
def writeAll (label : List Char) (n : Nat) (s : State) : List Nat → State
  | [] => s
  | m :: rest =>
    let s := label.foldl (pass m) { s with delta := s.delta + (m - n) * (s.count + 1) }
    writeAll label (m + 1) { s with delta := s.delta + 1 } rest

/-- The label without the mark in front that says it is written so. -/
def encode (label : List Char) : List Char :=
  let basic := label.filter (·.toNat < 0x80)
  let others := ((label.filter (0x80 ≤ ·.toNat)).map Char.toNat).foldr
    (fun n l => if l.contains n then l else l.takeWhile (· < n) ++ n :: l.dropWhile (· < n)) []
  let start := if basic.isEmpty then [] else basic ++ ['-']
  (writeAll label 0x80 { written := start, count := basic.length } others).written

end PageGrader.Address.Punycode
