/-!
# Checked 64-bit arithmetic

Amounts of cents and quantities are signed 64-bit integers. Their sums and products are taken
over the unbounded integers first and brought back only when the result fits, so nothing ever
wraps. The one statement that everything else needs is `fit?_eq_some_iff`: a word is returned
exactly when it denotes the number asked for.
-/

namespace Bookshop

/-! ### Numbers that fit a word -/

/-- The signed 64-bit word that denotes `n`, when there is one. -/
def fit? (n : Int) : Option Int64 :=
  if (Int64.ofInt n).toInt = n then some (Int64.ofInt n) else none

/-- The word nearest to `n`: numbers beyond either end give that end. -/
def clamp (n : Int) : Int64 :=
  if n < Int64.minValue.toInt then Int64.minValue
  else if Int64.maxValue.toInt < n then Int64.maxValue
  else Int64.ofInt n

theorem fit?_eq_some_iff {n : Int} {word : Int64} : fit? n = some word ↔ word.toInt = n := by
  unfold fit?
  constructor
  · intro h
    split at h
    · next hn => cases h; exact hn
    · cases h
  · intro h
    have hword : Int64.ofInt n = word := by rw [← h, Int64.ofInt_toInt]
    rw [if_pos (by rw [hword, h]), hword]

@[simp] theorem fit?_toInt (word : Int64) : fit? word.toInt = some word :=
  fit?_eq_some_iff.2 rfl

/-! ### Sums and products -/

def addChecked (a b : Int64) : Option Int64 := fit? (a.toInt + b.toInt)

def mulChecked (a b : Int64) : Option Int64 := fit? (a.toInt * b.toInt)

/-- The sum in list order, unless it or a partial sum leaves the range. -/
def sumChecked (values : List Int64) : Option Int64 :=
  values.foldlM addChecked 0

end Bookshop
