/-!
# Punycode

A word with characters outside ASCII is written with letters, digits and hyphens by first writing
its ASCII characters, then a hyphen if there are any, and then the places and the code points of the
others. These are put in by the order of their code points: a number tells how many places in how
many words without them lie between one insertion and the next. Numbers are written to the base 36,
the least significant digit first, with a threshold for each digit below which the number ends. The
thresholds adapt to the size of the numbers so far.
-/

namespace Bookshop.Punycode

/-! ### Digits -/

def base : Nat := 36

def firstPoint : Nat := 0x80

def firstBias : Nat := 72

/-- The character of a digit: letters come first. -/
def digitChar (d : Nat) : Char := Char.ofNat (if d < 26 then 97 + d else 22 + d)

def digit? (c : Char) : Option Nat :=
  if 'a' ≤ c ∧ c ≤ 'z' then some (c.toNat - 97)
  else if 'A' ≤ c ∧ c ≤ 'Z' then some (c.toNat - 65)
  else if '0' ≤ c ∧ c ≤ '9' then some (c.toNat - 22)
  else none

def threshold (place bias : Nat) : Nat := max 1 (min 26 (base * (place + 1) - bias))

theorem threshold_pos (place bias : Nat) : 1 ≤ threshold place bias := by
  unfold threshold; omega

/-- The bias that fits numbers of a size: the number is divided until it is small, and the number of
    divisions counts a base each. -/
def biasOf (size : Nat) : Nat :=
  if 455 < size then base + biasOf (size / 35) else base * size / (size + 38)
termination_by size
decreasing_by omega

def adapt (delta length : Nat) (isFirst : Bool) : Nat :=
  let delta := if isFirst then delta / 700 else delta / 2
  biasOf (delta + delta / length)

/-! ### Reading -/

def maxNumber : Nat := Nat.pow 2 32 - 1

def number? (bias : Nat) : Nat → Nat → List Char → Option (Nat × List Char)
  | _, _, [] => none
  | place, weight, c :: rest => do
    let d ← digit? c
    let t := threshold place bias
    if d < t then pure (d * weight, rest)
    else if maxNumber < weight * (base - t) then none
    else
      let (n, rest) ← number? bias (place + 1) (weight * (base - t)) rest
      pure (d * weight + n, rest)

/-- A word while it is read: the code point and the place of the next insertion, and the bias. -/
structure Reading where
  word : List Char
  point : Nat := firstPoint
  place : Nat := 0
  bias : Nat := firstBias

def Reading.insert? (reading : Reading) (delta : Nat) : Option Reading :=
  let length := reading.word.length + 1
  let point := reading.point + (reading.place + delta) / length
  let place := (reading.place + delta) % length
  if maxNumber < reading.place + delta then none
  else if h : point.isValidChar then
    some
      { word := reading.word.take place ++ Char.ofNatAux point h :: reading.word.drop place
        point
        place := place + 1
        bias := adapt delta length (reading.place = 0) }
  else none

def insertions? : Nat → Reading → List Char → Option (List Char)
  | _, reading, [] => some reading.word
  | 0, _, _ => none
  | limit + 1, reading, cs => do
    let (delta, rest) ← number? reading.bias 0 1 cs
    let reading ← reading.insert? delta
    insertions? limit reading rest

/-- Read a word: the ASCII characters before the last hyphen, and the insertions after it. -/
def decode? (cs : List Char) : Option (List Char) :=
  let code := (cs.reverse.takeWhile (· ≠ '-')).reverse
  let plain := cs.take (cs.length - code.length - 1)
  let code := if plain.isEmpty then cs else code
  if plain.all (·.toNat < firstPoint) then insertions? code.length { word := plain } code else none

/-! ### Writing -/

def digits (bias place n : Nat) : List Char :=
  let t := threshold place bias
  if n < t then [digitChar n]
  else digitChar (t + (n - t) % (base - t)) :: digits bias (place + 1) ((n - t) / (base - t))
termination_by n
decreasing_by
  have := threshold_pos place bias
  calc (n - threshold place bias) / (base - threshold place bias)
      ≤ n - threshold place bias := Nat.div_le_self _ _
    _ < n := by omega

/-- A word while it is written: the code, the number up to the place in the word, how many
    characters are in the word so far, and the bias. -/
structure Writing where
  code : List Char := []
  delta : Nat := 0
  length : Nat
  bias : Nat := firstBias
  isFirst : Bool := true

/-- Pass by one character of the word, on the way to insertions of a code point. -/
def Writing.pass (point : Nat) (writing : Writing) (c : Char) : Writing :=
  if c.toNat < point then { writing with delta := writing.delta + 1 }
  else if c.toNat = point then
    { code := writing.code ++ digits writing.bias 0 writing.delta
      delta := 0
      length := writing.length + 1
      bias := adapt writing.delta (writing.length + 1) writing.isFirst
      isFirst := false }
  else writing

/-- Write the insertions of code points in order; all below the given one are in the word. -/
def insertions (word : List Char) : List Nat → Nat → Writing → List Char
  | [], _, writing => writing.code
  | point :: points, next, writing =>
    let skipped := writing.delta + (point - next) * (writing.length + 1)
    let writing := word.foldl (Writing.pass point) { writing with delta := skipped }
    insertions word points (point + 1) { writing with delta := writing.delta + 1 }

def sorted (points : List Nat) : List Nat :=
  points.foldl (fun seen point =>
    if seen.contains point then seen
    else seen.takeWhile (· < point) ++ point :: seen.dropWhile (· < point)) []

def encode (word : List Char) : List Char :=
  let plain := word.filter (·.toNat < firstPoint)
  let points := sorted ((word.map Char.toNat).filter (firstPoint ≤ ·))
  let start := if plain.isEmpty then [] else plain ++ ['-']
  start ++ insertions word points firstPoint { length := plain.length }

example : encode "münchen".toList = "mnchen-3ya".toList := by decide +kernel
example : decode? "mnchen-3ya".toList = some "münchen".toList := by decide +kernel
example : decode? "ls8h".toList = some "💩".toList := by decide +kernel
example : decode? "0".toList = none := by decide +kernel

end Bookshop.Punycode
