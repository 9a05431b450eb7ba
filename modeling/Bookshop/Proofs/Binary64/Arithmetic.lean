import Bookshop.Proofs.Binary64.Rounding

/-!
# Exact values and arithmetic

A fraction whose value is a significand of 53 bits times a power of two is held exactly. A product
and a quotient are the exact results, rounded once, so each of them is a fraction that is rounded,
in whatever way it is written.
-/

namespace Bookshop

namespace Binary64

/-! ### Exact values -/

theorem Canonical.roundsTo_self {m : ℕ} {e : ℤ} : RoundsTo (m * 2 ^ e) m e := by
  have hpos := two_zpow_pos e
  have hreach := reachBelow_le m e
  refine ⟨by nlinarith, by nlinarith, fun _ => ⟨by nlinarith, by nlinarith⟩⟩

/-- A double that is not above a fraction is not above what that is rounded to. -/
theorem RoundsTo.double_le {q : ℚ} {m m₀ : ℕ} {e e₀ : ℤ} (h : RoundsTo q m e)
    (hcanonical : Canonical m e) (hcanonical₀ : Canonical m₀ e₀) (hpos : 0 < m₀)
    (hle : (m₀ : ℚ) * 2 ^ e₀ ≤ q) : (m₀ : ℚ) * 2 ^ e₀ ≤ m * 2 ^ e := by
  have hvalue : (0 : ℚ) < m₀ * 2 ^ e₀ := mul_pos (by exact_mod_cast hpos) (two_zpow_pos e₀)
  exact Canonical.roundsTo_self.mono hvalue hcanonical₀ hcanonical h hle

/-- A double that is not below a positive fraction is not below what that is rounded to. -/
theorem RoundsTo.le_of_le {q : ℚ} {m m₀ : ℕ} {e e₀ : ℤ} (h : RoundsTo q m e)
    (hcanonical : Canonical m e) (hcanonical₀ : Canonical m₀ e₀) (hq : 0 < q)
    (hle : q ≤ m₀ * 2 ^ e₀) : (m : ℚ) * 2 ^ e ≤ m₀ * 2 ^ e₀ :=
  h.mono hq hcanonical hcanonical₀ Canonical.roundsTo_self hle

theorem RoundsTo.pos_of_one_le {q : ℚ} {m : ℕ} {e : ℤ} (h : RoundsTo q m e)
    (hcanonical : Canonical m e) (hq : 1 ≤ q) : 0 < m := by
  have hunit : Canonical (2 ^ 52) (-52) := by decide
  have hone : ((2 ^ 52 : ℕ) : ℚ) * 2 ^ (-52 : ℤ) = 1 := by norm_num
  have hle := h.double_le hcanonical hunit (by decide) (hone.trans_le hq)
  rw [hone] at hle
  rcases Nat.eq_zero_or_pos m with rfl | hm
  · norm_num at hle
  · exact hm

theorem ofRatio_of_value (negative : Bool) {n d : ℕ} (hd : 0 < d) {m : ℕ} {e : ℤ} (hm : 0 < m)
    (hcanonical : Canonical m e) (hvalue : (n : ℚ) / d = m * 2 ^ e) :
    ofRatio negative n d = .finite negative m e := by
  have hn : 0 < n := by
    rcases Nat.eq_zero_or_pos n with rfl | hn
    · have hmpos : (0 : ℚ) < m := by exact_mod_cast hm
      have hproduct := mul_pos hmpos (two_zpow_pos e)
      rw [← hvalue] at hproduct
      simp at hproduct
    · exact hn
  rw [ofRatio_eq_finite_iff negative hn hd, hvalue]
  exact ⟨hcanonical, Canonical.roundsTo_self⟩

/-- A significand of at most 53 bits is brought to the form of a double by doubling it. -/
theorem exists_canonical {n : ℕ} {j : ℤ} (hn : 0 < n) (hlt : n < 2 ^ 53) (hlow : -1022 ≤ j)
    (hhigh : j ≤ 971) : ∃ m e, 0 < m ∧ Canonical m e ∧ (m : ℚ) * 2 ^ e = n * 2 ^ j := by
  have hlog : n.log2 < 53 := (Nat.log2_lt hn.ne').2 hlt
  obtain ⟨shift, hshift⟩ : ∃ shift, n.log2 + shift = 52 := ⟨52 - n.log2, by omega⟩
  have hlower : 2 ^ 52 ≤ n * 2 ^ shift := by
    rw [← hshift, pow_add]
    exact Nat.mul_le_mul_right _ (Nat.log2_self_le hn.ne')
  have hupper : n * 2 ^ shift < 2 ^ 53 := by
    have hsum : 53 = n.log2 + 1 + shift := by omega
    rw [hsum, pow_add]
    exact Nat.mul_lt_mul_of_pos_right Nat.lt_log2_self (Nat.two_pow_pos shift)
  refine ⟨n * 2 ^ shift, j - shift, by positivity, ⟨hupper, .inl hlower, ?_, ?_⟩, ?_⟩
  · unfold leastExponent
    omega
  · unfold greatestExponent
    omega
  · push_cast
    rw [zpow_sub₀ (by norm_num), zpow_natCast]
    field_simp

/-- Fractions of few bits are held exactly. -/
theorem ofRatio_exact (negative : Bool) {n d : ℕ} (hd : 0 < d) {k : ℕ} {j : ℤ} (hk : 0 < k)
    (hlt : k < 2 ^ 53) (hlow : -1022 ≤ j) (hhigh : j ≤ 971) (hvalue : (n : ℚ) / d = k * 2 ^ j) :
    ∃ m e, 0 < m ∧ ofRatio negative n d = .finite negative m e ∧ (m : ℚ) * 2 ^ e = n / d := by
  obtain ⟨m, e, hm, hcanonical, heq⟩ := exists_canonical hk hlt hlow hhigh
  rw [← hvalue] at heq
  exact ⟨m, e, hm, ofRatio_of_value negative hd hm hcanonical heq.symm, heq⟩

theorem ofRatio_whole (negative : Bool) {n : ℕ} (hn : 0 < n) (hlt : n < 2 ^ 53) :
    ∃ m e, 0 < m ∧ ofRatio negative n 1 = .finite negative m e ∧ (m : ℚ) * 2 ^ e = n := by
  obtain ⟨m, e, hm, hfinite, hvalue⟩ :=
    ofRatio_exact negative (n := n) (d := 1) one_pos hn hlt (j := 0) (by norm_num) (by norm_num)
      (by simp)
  exact ⟨m, e, hm, hfinite, by rw [hvalue]; simp⟩

/-- Two doubles of one value are the same. -/
theorem Canonical.eq_of_value {m m' : ℕ} {e e' : ℤ} (h : Canonical m e) (h' : Canonical m' e')
    (hm : 0 < m) (hvalue : (m : ℚ) * 2 ^ e = m' * 2 ^ e') : m = m' ∧ e = e' := by
  have hpos : (0 : ℚ) < m * 2 ^ e := mul_pos (by exact_mod_cast hm) (two_zpow_pos e)
  have hself : RoundsTo (m * 2 ^ e) m' e' := by
    rw [hvalue]
    exact Canonical.roundsTo_self
  exact Canonical.roundsTo_self.eq hpos h h' hself

/-! ### Units -/

/-- A fraction less than half a unit away from a double rounds to it, unless that begins a binade. -/
theorem RoundsTo.of_near {q : ℚ} {m : ℕ} {e : ℤ} (hm : m ≠ 2 ^ 52)
    (h : |q - m * 2 ^ e| < 2 ^ e / 2) : RoundsTo q m e := by
  obtain ⟨hlow, hhigh⟩ := abs_lt.1 h
  have hreach : reachBelow m e = 1 / 2 := by rw [reachBelow, if_neg fun hbegins => hm hbegins.1]
  rw [roundsTo_iff, hreach]
  exact ⟨by linarith, by linarith, fun _ => ⟨by linarith, by linarith⟩⟩

/-- Doubles from `2 ^ 53` on are whole multiples of two. -/
theorem Canonical.exponent_pos {m : ℕ} {e : ℤ} (h : Canonical m e) (hlow : 2 ^ 53 ≤ (m : ℚ) * 2 ^ e) :
    1 ≤ e := by
  have hm : (m : ℚ) < 2 ^ 53 := by exact_mod_cast h.lt
  by_contra hneg
  have hunit : (2 : ℚ) ^ e ≤ 2 ^ (0 : ℤ) := two_zpow_le (by omega)
  have hproduct := mul_le_mul_of_nonneg_left hunit (Nat.cast_nonneg (α := ℚ) m)
  norm_num at hproduct
  linarith

/-- A double below `2 ^ (53 + k)` has at most the unit `2 ^ k`. -/
theorem Canonical.exponent_le {m : ℕ} {e k : ℤ} (h : Canonical m e) (hleast : leastExponent ≤ k)
    (hhigh : (m : ℚ) * 2 ^ e < 2 ^ (53 + k)) : e ≤ k := by
  rcases h.normal with hnormal | hnormal
  · have hm : (2 : ℚ) ^ (52 : ℤ) ≤ m := by exact_mod_cast hnormal
    have hpower : (2 : ℚ) ^ (52 + e) < 2 ^ (53 + k) := by
      rw [zpow_add₀ (by norm_num)]
      exact (mul_le_mul_of_nonneg_right hm (two_zpow_pos e).le).trans_lt hhigh
    have hlt := lt_of_two_zpow_lt hpower
    omega
  · omega

/-! ### Products and quotients -/

theorem mul_finite (s t : Bool) {m k : ℕ} {e f : ℤ} {n d : ℕ} (hd : 0 < d)
    (h : (n : ℚ) / d = m * 2 ^ e * (k * 2 ^ f)) :
    mul (.finite s m e) (.finite t k f) = ofRatio (s != t) n d := by
  refine ofRatio_congr _ (Nat.two_pow_pos _) hd ?_
  rw [h, Nat.pow_eq, Nat.pow_eq]
  push_cast
  rw [mul_div_assoc, pow_toNat_div, zpow_add₀ (by norm_num)]
  ring

theorem div_finite (s t : Bool) {m k : ℕ} {e f : ℤ} (hk : 0 < k) {n d : ℕ} (hd : 0 < d)
    (h : (n : ℚ) / d = m * 2 ^ e / (k * 2 ^ f)) :
    div (.finite s m e) (.finite t k f) = ofRatio (s != t) n d := by
  have hscaled := scaled_div m k (e - f)
  rw [neg_sub] at hscaled
  rw [div, if_neg hk.ne', Nat.pow_eq, Nat.pow_eq]
  refine ofRatio_congr _ (Nat.mul_pos hk (Nat.two_pow_pos _)) hd ?_
  rw [hscaled, h, zpow_sub₀ (by norm_num), mul_div_mul_comm]

theorem neg_ofRatio (negative : Bool) (n d : Nat) :
    (ofRatio negative n d).neg = ofRatio (!negative) n d := by
  unfold ofRatio
  split
  · rfl
  · simp only
    split <;> split <;> rfl

/-! ### The nearest word -/

theorem roundHalfUp_eq {m : ℕ} {e : ℤ} {n : ℕ} (h : |(m : ℚ) * 2 ^ e - n| < 1 / 2) :
    roundHalfUp m e = n := by
  obtain ⟨hlow, hhigh⟩ := abs_lt.1 h
  have hdenominator : (0 : ℚ) < 2 ^ (-e).toNat := by positivity
  have hvalue := mul_two_zpow_mul m e
  apply Nat.div_eq_of_lt_le
  · have hcast :
        ((n * (2 * 2 ^ (-e).toNat) : ℕ) : ℚ) ≤ (2 * m * 2 ^ e.toNat + 2 ^ (-e).toNat : ℕ) := by
      push_cast
      nlinarith
    exact_mod_cast hcast
  · have hcast :
        ((2 * m * 2 ^ e.toNat + 2 ^ (-e).toNat : ℕ) : ℚ) <
          ((n + 1) * (2 * 2 ^ (-e).toNat) : ℕ) := by
      push_cast
      nlinarith
    exact_mod_cast hcast

end Binary64

theorem clamp_toInt (word : Int64) : clamp word.toInt = word := by
  have hlow : Int64.minValue.toInt ≤ word.toInt := Int64.minValue_le_toInt word
  have hhigh : word.toInt ≤ Int64.maxValue.toInt := Int64.toInt_le word
  rw [clamp, if_neg (by omega), if_neg (by omega), Int64.ofInt_toInt]

/-- A number that a word holds is its own nearest word. -/
theorem toInt_clamp {n : ℤ} (hlow : -2 ^ 63 ≤ n) (hhigh : n < 2 ^ 63) : (clamp n).toInt = n := by
  have hword : (Int64.ofInt n).toInt = n := Int64.toInt_ofInt_of_le hlow hhigh
  rw [← hword, clamp_toInt]

/-- A double less than a half away from a word gives the word. -/
theorem Binary64.toWord_eq {word : Int64} {m : ℕ} {e : ℤ}
    (h : |(m : ℚ) * 2 ^ e - word.toInt.natAbs| < 1 / 2) :
    (Binary64.finite (decide (word.toInt < 0)) m e).toWord = word := by
  by_cases hnegative : word.toInt < 0
  · have hvalue : -(word.toInt.natAbs : Int) = word.toInt := by omega
    simp only [hnegative, decide_true, Binary64.toWord, Binary64.roundHalfUp_eq h, hvalue,
      clamp_toInt]
  · have hvalue : (word.toInt.natAbs : Int) = word.toInt := by omega
    simp only [hnegative, decide_false, Binary64.toWord, Binary64.roundHalfUp_eq h, hvalue,
      clamp_toInt]

end Bookshop
