import Bookshop.Binary64.Shortest
import Bookshop.Text.Utf8

/-!
# JSON numerals

A numeral is kept as it is spelled, as digits, because what it is worth depends on who asks: a
counter takes whole numerals in the range of words only, an amount takes every numeral that a
double can hold. This file says how a numeral is spelled, what it is worth either way, and which
numeral is written for a word and for a double.
-/

namespace Bookshop

/-- A number as JSON spells it. Digits are numbers below ten; the whole part has at least one, and
    an empty fraction means that there is no point. -/
structure Numeral where
  negative : Bool
  whole : List Nat
  fraction : List Nat
  exponent : Option Int
deriving DecidableEq, Repr

namespace Numeral

/-! ### Spelling -/

def digitByte (d : Nat) : UInt8 := .ofNat (48 + d)

def spellExponent : Option Int → Bytes
  | none => []
  | some e => 0x65 :: (if e < 0 then 0x2D else 0x2B) :: (digits e.natAbs).map digitByte

def spellFraction (ds : List Nat) : Bytes :=
  if ds.isEmpty then [] else 0x2E :: ds.map digitByte

def spell (n : Numeral) : Bytes :=
  (if n.negative then [0x2D] else []) ++ n.whole.map digitByte ++ spellFraction n.fraction ++
    spellExponent n.exponent

/-! ### Worth as a word -/

/-- The word that a numeral denotes: it must be whole, in range, and not a negative zero. -/
def toWord? (n : Numeral) : Option Int64 :=
  if n.fraction.isEmpty && n.exponent.isNone then
    let magnitude := ofDigits n.whole
    if n.negative then if magnitude = 0 then none else fit? (-magnitude)
    else fit? magnitude
  else none

def ofWord (word : Int64) : Numeral :=
  ⟨decide (word.toInt < 0), digits word.toInt.natAbs, [], none⟩

/-! ### Worth as a double

The digits are gathered into a 64-bit significand for as long as they fit; the digits left over
count for their places only. The significand and the power of ten are then each rounded to a
double before they are combined. Where both are exact, which they are for up to fifteen digits and
up to 22 places, the numeral gives the nearest double; elsewhere it may miss it by a little. -/

def greatestSignificand : Nat := Nat.pow 2 64 - 1

/-- Gather digits into a significand until the next one would not fit: the significand and the
    digits left over. -/
def gather (significand : Nat) : List Nat → Nat × List Nat
  | [] => (significand, [])
  | d :: ds =>
    if significand * 10 + d ≤ greatestSignificand then gather (significand * 10 + d) ds
    else (significand, d :: ds)

def powerOfTen (n : Nat) : Binary64 := Binary64.ofRatio false (Nat.pow 10 n) 1

/-- Divide by `10 ^ n`, in steps of `10 ^ 308` while more than that is left. -/
def scaleDown (x : Binary64) (n : Nat) : Binary64 :=
  if n ≤ 308 then x.div (powerOfTen n)
  else if x.isZero then x
  else scaleDown (x.div (powerOfTen 308)) (n - 308)
termination_by n

/-- Multiply by `10 ^ n`, unless the result is too large for a finite double. -/
def scaleUp? (x : Binary64) (n : Nat) : Option Binary64 :=
  if n ≤ 308 then
    let product := x.mul (powerOfTen n)
    if product.isFinite then some product else none
  else if x.isZero then some x
  else none

def parts (n : Numeral) : Nat × Int :=
  let (whole, wholeLeft) := gather 0 n.whole
  let (significand, fractionLeft) := gather whole n.fraction
  let places : Int := (n.fraction.length : Int) - fractionLeft.length
  (significand, wholeLeft.length - places + n.exponent.getD 0)

/-- The double that a numeral is read as; none when it is too large for a finite one. -/
def toBinary64? (n : Numeral) : Option Binary64 :=
  let (significand, power) := n.parts
  let start := Binary64.ofRatio false significand 1
  let magnitude? :=
    if 0 ≤ power then scaleUp? start power.toNat else some (scaleDown start (-power).toNat)
  magnitude?.map fun x => if n.negative then x.neg else x

/-! ### Which numeral is written for a double -/

/-- From which position of the decimal point on a double is written with an exponent. -/
def positionalEnd : Int := 16

/-- Above which position of the decimal point a double is written without an exponent. -/
def positionalStart : Int := -5

/-- The numeral with the digits `ds` and the decimal point after `point` of them. A numeral of a
    double always shows that it is one: it has a point or an exponent. -/
def place (negative : Bool) (ds : List Nat) (point : Int) : Numeral :=
  let zeros (n : Int) := List.replicate n.toNat 0
  if (ds.length : Int) ≤ point ∧ point ≤ positionalEnd then
    ⟨negative, ds ++ zeros (point - ds.length), [0], none⟩
  else if 0 < point ∧ point ≤ positionalEnd then
    ⟨negative, ds.take point.toNat, ds.drop point.toNat, none⟩
  else if positionalStart < point ∧ point ≤ 0 then
    ⟨negative, [0], zeros (-point) ++ ds, none⟩
  else ⟨negative, ds.take 1, ds.drop 1, some (point - 1)⟩

/-- The numeral of a finite double, with the fewest digits that read back as it. Infinities and
    NaNs have none. -/
def ofBinary64? : Binary64 → Option Numeral
  | .finite negative m e =>
    if m = 0 then some ⟨negative, [0], [0], none⟩
    else
      let (c, k) := Binary64.shortest m e
      let ds := digits c
      some (place negative ds (ds.length + k))
  | _ => none

end Numeral

end Bookshop
