import Bookshop.Wire.Codec

/-!
# Money

An amount of money is a whole number of cents. Sums and multiples are exact or refused. On the
wire and in storage an amount is a decimal number of units, held as a double: the cents divided by
one hundred, and back again the double times one hundred, rounded to the nearest cent.
-/

namespace Bookshop

structure Money where
  cents : Int64
deriving DecidableEq, Repr

namespace Money

def zero : Money := ⟨0⟩

def isNegative (m : Money) : Bool := m.cents < 0

def compare (a b : Money) : Ordering := Ord.compare a.cents.toInt b.cents.toInt

theorem eq_of_cents {a b : Money} (h : a.cents.toInt = b.cents.toInt) : a = b := by
  cases a
  cases b
  exact congrArg Money.mk (Int64.toInt_inj.1 h)

theorem eq_zero_of_cents {m : Money} (h : m.cents = 0) : m = zero :=
  eq_of_cents (congrArg Int64.toInt h)

/-! ### Arithmetic -/

/-- The sum, unless it cannot be held. -/
def add? (a b : Money) : Option Money := (addChecked a.cents b.cents).map Money.mk

def times? (m : Money) (factor : Int64) : Option Money :=
  (mulChecked m.cents factor).map Money.mk

/-- The sum in list order, unless it or a partial sum cannot be held. -/
def sum? (amounts : List Money) : Option Money := amounts.foldlM add? zero

/-! ### Decimal form -/

def hundred : Binary64 := Binary64.ofInt 100

/-- The amount in units: the cents divided by one hundred, rounded to a double. -/
def toDecimal (m : Money) : Binary64 := (Binary64.ofInt m.cents.toInt).div hundred

/-- The amount nearest to a number of units; half a cent goes away from zero, and units beyond
    what cents can hold give the extreme amount. -/
def ofDecimal (units : Binary64) : Money := ⟨(units.mul hundred).toWord⟩

/-- The number of units above which an amount is refused: the double nearest to the greatest word
    divided by one hundred. -/
def decimalLimit : Nat := 92233720368547760

/-- The amount of a number of units that comes from outside; refused when it is not finite or too
    large. -/
def ofUnits (units : Binary64) : Except DecodeError Money :=
  if units.isFinite && !units.magnitudeExceeds decimalLimit then .ok (ofDecimal units)
  else .error (.outOfRange units)

def codec : Codec Money := Codec.double.convert toDecimal ofUnits

/-! ### Display -/

def twoDigits (n : Nat) : String := digitText [n / 10, n % 10]

/-- The amount as it is shown: units, a point, and exactly two digits of cents. -/
def text (m : Money) : String :=
  let magnitude := m.cents.toInt.natAbs
  (if m.isNegative then "-" else "") ++ digitText (digits (magnitude / 100)) ++ "." ++
    twoDigits (magnitude % 100)

example : (Money.mk (-5)).text = "-0.05" := by decide +kernel
example : Money.ofDecimal (Binary64.ofDecimal false 2675 (-3)) = ⟨268⟩ := by decide +kernel
example : Binary64.ofRatio false (2 ^ 63 / 100) 1 = Binary64.ofRatio false decimalLimit 1 := by
  decide +kernel

end Money

end Bookshop
