import Bookshop.Money
import Bookshop.Proofs.Json.Numeral
import Bookshop.Proofs.Wire.RoundTrip

/-!
# Amounts in decimal form

An amount is written as its cents divided by one hundred, rounded to a double, and spelled with the
fewest digits. Up to `decimalRange` cents the double is so near to the quotient that one hundred
times it is nearest to the cents, and its shortest decimal is read exactly, so the amount reads
back.
-/

namespace Bookshop

namespace Money

open Binary64

/-- Amounts of at most so many cents survive their decimal form: one hundred times `2 ^ 45`. -/
def decimalRange : Nat := 3518437208883200

/-- The amount is in the range in which it survives its decimal form. -/
def InRange (amount : Money) : Prop := amount.cents.toInt.natAbs ≤ decimalRange

instance (amount : Money) : Decidable amount.InRange := by
  unfold InRange
  infer_instance

/-! ### The decimal form -/

theorem hundred_eq : hundred = .finite false 7036874417766400 (-46) := by decide +kernel

/-- The decimal form is the cents divided by one hundred, rounded once. -/
theorem toDecimal_eq {amount : Money} (hpos : amount.cents ≠ 0)
    (hlt : amount.cents.toInt.natAbs < 2 ^ 53) :
    amount.toDecimal =
      Binary64.ofRatio (decide (amount.cents.toInt < 0)) amount.cents.toInt.natAbs 100 := by
  have hne : amount.cents.toInt ≠ 0 := fun h => hpos (Int64.toInt_inj.1 h)
  obtain ⟨m, e, hm, hfinite, hvalue⟩ := Binary64.ofRatio_whole (decide (amount.cents.toInt < 0))
    (Int.natAbs_pos.2 hne) hlt
  rw [toDecimal, Binary64.ofInt, hfinite, hundred_eq,
    Binary64.div_finite _ false (by norm_num) (n := amount.cents.toInt.natAbs) (d := 100)
      (by norm_num)]
  · rw [Bool.bne_false]
  · rw [hvalue]
    norm_num

/-- A hundredth of a number in the range, rounded to a double, is less than `1 / 512` off. -/
theorem exists_hundredth (negative : Bool) {n : ℕ} (hpos : 0 < n) (hrange : n ≤ decimalRange) :
    ∃ m e, 0 < m ∧ ofRatio negative n 100 = .finite negative m e ∧ Canonical m e ∧
      RoundsTo ((n : ℚ) / 100) m e ∧ |(n : ℚ) / 100 - m * 2 ^ e| ≤ 1 / 512 := by
  have hcast : (n : ℚ) ≤ 3518437208883200 := by exact_mod_cast hrange
  have hquotient : (n : ℚ) / 100 ≤ 2 ^ (45 : ℤ) := by
    norm_num
    linarith
  have hsmallest : (1 : ℚ) ≤ n := by exact_mod_cast hpos
  obtain ⟨m, e, hfinite, hcanonical, hrounds⟩ :=
    exists_rounding negative hpos (d := 100) (by norm_num) (hquotient.trans (by norm_num))
  have herror := hrounds.error_le hcanonical (k := 45) (by decide) hquotient
  norm_num at herror
  refine ⟨m, e, ?_, hfinite, hcanonical, hrounds, by norm_num; exact herror⟩
  rcases Nat.eq_zero_or_pos m with rfl | hm
  · obtain ⟨-, hhigh⟩ := abs_le.1 herror
    norm_num at hhigh
    linarith
  · exact hm

/-! ### Back to cents -/

theorem hundredfold_eq (m : ℕ) (e : ℤ) :
    ((m * 100 * 2 ^ e.toNat : ℕ) : ℚ) / (2 ^ (-e).toNat : ℕ) = m * 2 ^ e * 100 := by
  push_cast
  rw [mul_div_assoc, pow_toNat_div]
  ring

theorem mul_hundred (negative : Bool) (m : ℕ) (e : ℤ) :
    (finite negative m e).mul hundred =
      ofRatio negative (m * 100 * 2 ^ e.toNat) (2 ^ (-e).toNat) := by
  have hmul := mul_finite negative false (m := m) (k := 7036874417766400) (e := e) (f := -46)
    (n := m * 100 * 2 ^ e.toNat) (d := 2 ^ (-e).toNat) (by positivity)
    (by rw [hundredfold_eq]; norm_num)
  rw [hundred_eq, hmul, Bool.bne_false]

/-- One hundred times a double near to a hundredth is nearest to the number: the error of the first
    rounding is multiplied by one hundred, that of the second one is a quarter. -/
theorem exists_hundredfold (negative : Bool) {m : ℕ} {e : ℤ} (hm : 0 < m) {n : ℕ}
    (hrange : n ≤ decimalRange) (herror : |(n : ℚ) / 100 - m * 2 ^ e| ≤ 1 / 512) :
    ∃ r f, (finite negative m e).mul hundred = .finite negative r f ∧
      |(r : ℚ) * 2 ^ f - n| < 1 / 2 := by
  have hcast : (n : ℚ) ≤ 3518437208883200 := by exact_mod_cast hrange
  obtain ⟨hlow, hhigh⟩ := abs_le.1 herror
  have hbound : ((m * 100 * 2 ^ e.toNat : ℕ) : ℚ) / (2 ^ (-e).toNat : ℕ) ≤ 2 ^ (52 : ℤ) := by
    rw [hundredfold_eq]
    norm_num
    linarith
  obtain ⟨r, f, hfinite, hcanonical, hrounds⟩ := exists_rounding negative
    (n := m * 100 * 2 ^ e.toNat) (d := 2 ^ (-e).toNat) (by positivity) (by positivity)
    (hbound.trans (by norm_num))
  have hsecond := hrounds.error_le hcanonical (k := 52) (by decide) hbound
  rw [hundredfold_eq] at hsecond
  norm_num at hsecond
  obtain ⟨hlow', hhigh'⟩ := abs_le.1 hsecond
  refine ⟨r, f, (mul_hundred negative m e).trans hfinite, ?_⟩
  rw [abs_lt]
  constructor <;> linarith

theorem magnitudeExceeds_eq_false {negative : Bool} {m bound : ℕ} {e : ℤ}
    (h : (m : ℚ) * 2 ^ e ≤ bound) : (finite negative m e).magnitudeExceeds bound = false := by
  have hcast : ((m * 2 ^ e.toNat : ℕ) : ℚ) ≤ (bound * 2 ^ (-e).toNat : ℕ) := by
    push_cast
    rw [← mul_two_zpow_mul]
    gcongr
  simp only [magnitudeExceeds, decide_eq_false_iff_not, not_lt]
  exact_mod_cast hcast

/-- The number of units that an amount is written as gives the amount back. -/
theorem ofUnits_finite {amount : Money} (hrange : amount.InRange) {m : ℕ} {e : ℤ} (hm : 0 < m)
    (herror : |(amount.cents.toInt.natAbs : ℚ) / 100 - m * 2 ^ e| ≤ 1 / 512) :
    ofUnits (.finite (decide (amount.cents.toInt < 0)) m e) = .ok amount := by
  have hcast : (amount.cents.toInt.natAbs : ℚ) ≤ 3518437208883200 := by exact_mod_cast hrange
  have hbound : (m : ℚ) * 2 ^ e ≤ decimalLimit := by
    obtain ⟨hlow, -⟩ := abs_le.1 herror
    unfold decimalLimit
    push_cast
    linarith
  obtain ⟨r, f, hproduct, hnear⟩ :=
    exists_hundredfold (decide (amount.cents.toInt < 0)) hm hrange herror
  have hback : ofDecimal (.finite (decide (amount.cents.toInt < 0)) m e) = amount := by
    rw [ofDecimal, hproduct, toWord_eq hnear]
  rw [ofUnits, hback, magnitudeExceeds_eq_false hbound]
  rfl

/-! ### The shortest decimal of an amount -/

/-- A decimal below `2 ^ 46` on a grid that is not finer than hundredths has few digits. -/
theorem shifted_lt {c : ℕ} {k : ℤ} (hk : -2 ≤ k) (h : (c : ℚ) * 10 ^ k ≤ 2 ^ 46) :
    c * 10 ^ (k + 1).toNat < 2 ^ 53 := by
  have hcast : ((c * 10 ^ (k + 1).toNat : ℕ) : ℚ) < (2 ^ 53 : ℕ) := by
    refine (Numeral.shifted_le hk).trans_lt ?_
    norm_num at h ⊢
    linarith
  exact_mod_cast hcast

/-- The numeral of a rounded hundredth is read as the double. -/
theorem toBinary64?_hundredth (negative : Bool) {n m : ℕ} {e : ℤ} (hpos : 0 < n)
    (hrange : n ≤ decimalRange) (hm : 0 < m) (hcanonical : Canonical m e)
    (hrounds : RoundsTo ((n : ℚ) / 100) m e) (herror : |(n : ℚ) / 100 - m * 2 ^ e| ≤ 1 / 512) :
    ∃ numeral, Numeral.ofBinary64? (.finite negative m e) = some numeral ∧ numeral.WellFormed ∧
      numeral.toBinary64? = some (.finite negative m e) := by
  have hsmallest : (1 : ℚ) ≤ n := by exact_mod_cast hpos
  have hcast : (n : ℚ) ≤ 3518437208883200 := by exact_mod_cast hrange
  obtain ⟨hlow, hhigh⟩ := abs_le.1 herror
  have hsize : (2 : ℚ) ^ (-7 : ℤ) < m * 2 ^ e ∧ (m : ℚ) * 2 ^ e < 2 ^ (46 : ℤ) := by
    norm_num
    constructor <;> linarith
  obtain ⟨hexponent, hexponent'⟩ := decimalExponent_bounds hm hsize.1 hsize.2
  -- The cents themselves are a decimal of the double, on the grid of hundredths.
  have hcents : RoundsTo ((n : ℚ) * 10 ^ (-2 : ℤ)) m e := by
    have heq : (n : ℚ) * 10 ^ (-2 : ℤ) = n / 100 := by
      norm_num
      ring
    rw [heq]
    exact hrounds
  obtain ⟨c, k, hshortest, hk, hk', hdecimal⟩ := shortest_spec hm hcents (by omega) (by omega)
  apply Numeral.toBinary64?_ofBinary64? negative hm hcanonical hshortest hdecimal (by omega)
    (by omega)
  apply shifted_lt hk
  have hmcast : (1 : ℚ) ≤ m := by exact_mod_cast hm
  have hunit := two_zpow_pos e
  have hend := hdecimal.high
  norm_num
  nlinarith

/-! ### Round trip -/

theorem codec_readsBack_zero : codec.ReadsBack zero := by
  have hzero : zero.toDecimal = Binary64.zero false := by decide +kernel
  have hread : Numeral.toBinary64? ⟨false, [0], [0], none⟩ = some (Binary64.zero false) := by
    decide +kernel
  have hback : ofDecimal (Binary64.zero false) = zero := by decide +kernel
  have hsmall : (Binary64.zero false).magnitudeExceeds decimalLimit = false := by decide +kernel
  apply Codec.convert_readsBack
  · rw [hzero]
    exact Codec.double_readsBack rfl ⟨by simp, by simp, .inl rfl⟩ hread
  · rw [hzero, ofUnits, hback, hsmall]
    rfl

/-- Amounts in the range survive their decimal form. -/
theorem codec_readsBack {amount : Money} (hrange : amount.InRange) : codec.ReadsBack amount := by
  by_cases hne : amount.cents = 0
  · obtain rfl : amount = zero := eq_zero_of_cents hne
    exact codec_readsBack_zero
  · have hpos : 0 < amount.cents.toInt.natAbs :=
      Int.natAbs_pos.2 fun h => hne (Int64.toInt_inj.1 h)
    obtain ⟨m, e, hm, hfinite, hcanonical, hrounds, herror⟩ :=
      exists_hundredth (decide (amount.cents.toInt < 0)) hpos hrange
    have hdecimal := (toDecimal_eq hne (hrange.trans_lt (by decide))).trans hfinite
    obtain ⟨numeral, hspelled, hwellFormed, hread⟩ := toBinary64?_hundredth
      (decide (amount.cents.toInt < 0)) hpos hrange hm hcanonical hrounds herror
    refine Codec.convert_readsBack ?_ ?_
    · rw [hdecimal]
      exact Codec.double_readsBack hspelled hwellFormed hread
    · rw [hdecimal]
      exact ofUnits_finite hrange hm herror

end Money

end Bookshop
