import Bookshop.Checked

/-!
# Binary floating-point numbers of 64 bits

Prices travel as decimal numbers that are held as doubles, so what a price becomes on its way is
decided by how doubles round. This file describes them exactly: a finite double is a sign, a
whole significand and a power of two, every operation computes the exact result as a fraction of
natural numbers, and one function, `ofRatio`, rounds that fraction to the nearest double, a half
going to the even neighbour.
-/

namespace Bookshop

/-- A double. A finite one is `significand * 2 ^ exponent` with its sign; every double has one
    form only: the significand has 53 bits, or fewer when the exponent is the least one. -/
inductive Binary64 where
  | finite (negative : Bool) (significand : Nat) (exponent : Int)
  | infinite (negative : Bool)
  | nan
deriving DecidableEq, Repr

namespace Binary64

/-- The exponent of zero, of the subnormal and of the least normal numbers. -/
def leastExponent : Int := -1074

def greatestExponent : Int := 971

def zero (negative : Bool) : Binary64 := .finite negative 0 leastExponent

/-! ### Rounding a fraction -/

/-- `n / d` to the nearest natural number; a half goes to the even neighbour. -/
def divHalfEven (n d : Nat) : Nat :=
  let quotient := n / d
  let remainder := n % d
  if 2 * remainder < d then quotient
  else if d < 2 * remainder then quotient + 1
  else quotient + quotient % 2

/-- The greatest `k` with `2 ^ k ≤ n / d`, for positive `n` and `d`. -/
def binade (n d : Nat) : Int :=
  let k : Int := (n.log2 : Int) - (d.log2 : Int)
  if d * Nat.pow 2 k.toNat ≤ n * Nat.pow 2 (-k).toNat then k else k - 1

/-- The double nearest to `± n / d`; a half goes to the even neighbour, and what rounds beyond
    the greatest finite double is infinite. -/
def ofRatio (negative : Bool) (n d : Nat) : Binary64 :=
  if n = 0 then zero negative
  else
    let exponent := max (binade n d - 52) leastExponent
    let significand :=
      divHalfEven (n * Nat.pow 2 (-exponent).toNat) (d * Nat.pow 2 exponent.toNat)
    let (significand, exponent) :=
      if significand = Nat.pow 2 53 then (Nat.pow 2 52, exponent + 1)
      else (significand, exponent)
    if greatestExponent < exponent then .infinite negative
    else .finite negative significand exponent

def ofInt (n : Int) : Binary64 := ofRatio (decide (n < 0)) n.natAbs 1

def ofDecimal (negative : Bool) (digits : Nat) (power : Int) : Binary64 :=
  ofRatio negative (digits * Nat.pow 10 power.toNat) (Nat.pow 10 (-power).toNat)

/-! ### Arithmetic -/

def neg : Binary64 → Binary64
  | .finite negative significand exponent => .finite (!negative) significand exponent
  | .infinite negative => .infinite (!negative)
  | .nan => .nan

def mul : Binary64 → Binary64 → Binary64
  | .finite s m e, .finite t k f =>
    ofRatio (s != t) (m * k * Nat.pow 2 (e + f).toNat) (Nat.pow 2 (-(e + f)).toNat)
  | .finite s m _, .infinite t => if m = 0 then .nan else .infinite (s != t)
  | .infinite s, .finite t k _ => if k = 0 then .nan else .infinite (s != t)
  | .infinite s, .infinite t => .infinite (s != t)
  | .nan, _ => .nan
  | _, .nan => .nan

def div : Binary64 → Binary64 → Binary64
  | .finite s m e, .finite t k f =>
    if k = 0 then (if m = 0 then .nan else .infinite (s != t))
    else ofRatio (s != t) (m * Nat.pow 2 (e - f).toNat) (k * Nat.pow 2 (f - e).toNat)
  | .finite s _ _, .infinite t => zero (s != t)
  | .infinite s, .finite t _ _ => .infinite (s != t)
  | .infinite _, .infinite _ => .nan
  | .nan, _ => .nan
  | _, .nan => .nan

/-! ### Looking at a double -/

def isFinite : Binary64 → Bool
  | .finite _ _ _ => true
  | _ => false

def isZero : Binary64 → Bool
  | .finite _ significand _ => significand == 0
  | _ => false

/-- Is the magnitude of a finite double above the natural number `bound`? Infinities are above
    every number. -/
def magnitudeExceeds (bound : Nat) : Binary64 → Bool
  | .finite _ m e => bound * Nat.pow 2 (-e).toNat < m * Nat.pow 2 e.toNat
  | .infinite _ => true
  | .nan => false

/-- The whole number nearest to `m * 2 ^ e`, a half going up. -/
def roundHalfUp (m : Nat) (e : Int) : Nat :=
  (2 * m * Nat.pow 2 e.toNat + Nat.pow 2 (-e).toNat) / (2 * Nat.pow 2 (-e).toNat)

/-- The nearest whole number, a half going away from zero, as a word: beyond the range of words
    the nearer end, and nothing (zero) for a NaN. -/
def toWord : Binary64 → Int64
  | .finite true m e => clamp (-(roundHalfUp m e : Int))
  | .finite false m e => clamp (roundHalfUp m e)
  | .infinite true => Int64.minValue
  | .infinite false => Int64.maxValue
  | .nan => 0

example : ofRatio false 1 10 = .finite false 7205759403792794 (-56) := by decide +kernel
example : div (ofInt 1) (ofInt 10) = ofDecimal false 1 (-1) := by decide +kernel
example : mul (ofDecimal false 1115 (-3)) (ofInt 100) = ofDecimal false 1115 (-1) := by
  decide +kernel

end Binary64

end Bookshop
