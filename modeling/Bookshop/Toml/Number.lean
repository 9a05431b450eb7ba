import Bookshop.Binary64.Basic
import Bookshop.Text.Digits
import Bookshop.Toml.Text

/-!
# TOML numbers

Whole numbers are 64-bit words in decimal, or without sign in hexadecimal, octal or binary; all
other numbers are doubles. Underscores may stand between two digits and count for nothing, and a
decimal number has no needless zero in front.
-/

namespace Bookshop.Toml

/-! ### Digits -/

def digitOf? (base : Nat) (c : Char) : Option Nat :=
  match hexValue? c with
  | some d => if d < base then some d else none
  | none => none

/-- Is every underscore between two digits, where a digit may be due? -/
def separates (due : Bool) : List Char → Bool
  | [] => !due
  | c :: cs => if c = '_' then !due && separates true cs else separates false cs

/-- One or more digits with underscores between them. -/
def digitRun? (base : Nat) : Scan (List Nat) := fun cs =>
  let inRun (c : Char) : Bool := (digitOf? base c).isSome || c = '_'
  let run := cs.takeWhile inRun
  if separates true run then some (run.filterMap (digitOf? base), cs.dropWhile inRun) else none

/-- Decimal digits without a needless zero in front. -/
def wholeDigits? : Scan (List Nat) := fun cs =>
  match digitRun? 10 cs with
  | some (0 :: _ :: _, _) => none
  | read => read

def sign : List Char → Bool × List Char
  | '-' :: cs => (true, cs)
  | '+' :: cs => (false, cs)
  | cs => (false, cs)

/-! ### Whole numbers -/

def ofDigitsIn (base : Nat) (ds : List Nat) : Nat := ds.foldl (fun n d => base * n + d) 0

def wordBefore (n : Int) (rest : List Char) : Option (Int64 × List Char) :=
  match fit? n with
  | some word => some (word, rest)
  | none => none

def integerIn? (base : Nat) : Scan Int64 := fun cs =>
  match digitRun? base cs with
  | some (ds, rest) => wordBefore (ofDigitsIn base ds) rest
  | none => none

def integer? : Scan Int64
  | '0' :: 'x' :: cs => integerIn? 16 cs
  | '0' :: 'o' :: cs => integerIn? 8 cs
  | '0' :: 'b' :: cs => integerIn? 2 cs
  | cs =>
    let (negative, cs) := sign cs
    match wholeDigits? cs with
    | some (ds, rest) => wordBefore (if negative then -(ofDigits ds : Int) else ofDigits ds) rest
    | none => none

/-! ### Doubles -/

/-- The double nearest to a decimal number whose point stands `power` places behind its last digit.
    A number with its first digit more than 310 places before the point is above every finite
    double, and one with it more than 330 places behind the point is nearest to zero. -/
def nearestDouble (negative : Bool) (ds : List Nat) (power : Int) : Binary64 :=
  let ds := ds.dropWhile (· = 0)
  let place := ds.length + power
  if ds.isEmpty then .zero negative
  else if 310 < place then .infinite negative
  else if place < -330 then .zero negative
  else .ofDecimal negative (ofDigits ds) power

def fraction? : Scan (List Nat)
  | '.' :: cs => digitRun? 10 cs
  | cs => some ([], cs)

def exponent? (cs : List Char) : Option (Option Int × List Char) :=
  match cs with
  | [] => some (none, cs)
  | c :: rest =>
    if c = 'e' || c = 'E' then
      let (negative, rest) := sign rest
      match digitRun? 10 rest with
      | some (ds, rest) => some (some (if negative then -(ofDigits ds : Int) else ofDigits ds), rest)
      | none => none
    else some (none, cs)

/-- A number with a fraction or a power of ten. A number above all finite doubles is refused, one
    below them is read as the negative infinity. -/
def decimal? : Scan Binary64 := fun cs => do
  let (negative, cs) := sign cs
  let (whole, cs) ← wholeDigits? cs
  let (fraction, cs) ← fraction? cs
  let (power, cs) ← exponent? cs
  if fraction.isEmpty && power.isNone then none
  else
    let value := nearestDouble negative (whole ++ fraction) (power.getD 0 - fraction.length)
    if value = .infinite false then none else some (value, cs)

def namedDouble? : Scan Binary64 := fun cs =>
  match sign cs with
  | (negative, 'i' :: 'n' :: 'f' :: rest) => some (.infinite negative, rest)
  | (_, 'n' :: 'a' :: 'n' :: rest) => some (.nan, rest)
  | _ => none

def float? : Scan Binary64 := fun cs => (decimal? cs).or (namedDouble? cs)

end Bookshop.Toml
