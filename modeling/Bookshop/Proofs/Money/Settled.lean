import Bookshop.Proofs.Money.Drift

/-!
# Amounts settle

An amount that goes through its decimal form may come back as another one, but that one comes back as
itself. Up to `2 ^ 53` cents this is a matter of the drift: an amount that has drifted has a small
remainder. Beyond, the cents are rounded to a double first, and what decides is how far the doubles
are apart at the cents (`2 ^ shift`) and at a hundredth of them (`2 ^ e`). If these are seven binades or
more apart, then one hundred times the hundredth goes back to the same double. If they are fewer, then
a hundredth of what comes back is so near to the first hundredth that it is rounded to it again. Powers
of two, below which the doubles are nearer to each other, come back anyway.

The main statement is `decimal_settles`.
-/

namespace Bookshop

namespace Money

open Binary64

/-! ### Small amounts -/

/-- The remainder of a sum is that of the first summand, brought on by the second. -/
theorem exists_bmod_add (x y : ℤ) : ∃ turns, Int.bmod (x + y) 25 = Int.bmod x 25 + y - 25 * turns :=
  ⟨Int.bdiv (x + y) 25 - Int.bdiv x 25, by
    have hsum := Int.bmod_add_bdiv (x + y) 25
    have hfirst := Int.bmod_add_bdiv x 25
    omega⟩

/-- An amount that has drifted does not drift again. -/
theorem drift_drift {n k : ℕ} (hn : n ≤ 2 ^ 53) (hk : (k : ℤ) = n + drift n) :
    k ≤ 2 ^ 53 ∧ drift k = 0 := by
  by_cases hzero : drift n = 0
  · obtain rfl : k = n := by omega
    exact ⟨hn, hzero⟩
  have hcorner : n ≠ 2 ^ 53 := by
    rintro rfl
    exact hzero (by decide)
  obtain ⟨hdown, hup⟩ := drift_bounds n
  refine ⟨by omega, ?_⟩
  -- By one cent the remainder goes to the other side of zero.
  obtain ⟨turns, hhalves⟩ := exists_bmod_add (32 * n) (32 * drift n)
  obtain ⟨turns', hcents⟩ := exists_bmod_add (16 * n) (16 * drift n)
  rw [← mul_add, ← hk] at hhalves hcents
  have hb := bmod_bounds (32 * n)
  have hb' := bmod_bounds (32 * k)
  have hc := bmod_bounds (16 * n)
  have hc' := bmod_bounds (16 * k)
  unfold drift decimalRange at *
  simp only at *
  generalize Int.bmod (32 * n) 25 = a at *
  generalize Int.bmod (32 * k) 25 = a' at *
  generalize Int.bmod (16 * n) 25 = b at *
  generalize Int.bmod (16 * k) 25 = b' at *
  omega

/-! ### Powers of two -/

theorem canonical_normal {m : ℕ} {e : ℤ} (hm : 2 ^ 52 ≤ m) (hm' : m < 2 ^ 53) (hlow : -50 ≤ e)
    (hhigh : e ≤ 50) : Canonical m e where
  lt := hm'
  normal := .inl hm
  least := by unfold leastExponent; omega
  greatest := by unfold greatestExponent; omega

/-- The significand of a hundredth of a power of two. -/
def hundredthSignificand : ℕ := 5764607523034235

theorem rounds_hundredth_power (e : ℤ) :
    RoundsTo (2 ^ 52 * 2 ^ (e + 7) / 100) hundredthSignificand e := by
  refine .of_parts (-3) 25 (by decide) (by norm_num) ?_ (by norm_num) (by norm_num) (by norm_num)
  rw [zpow_add₀ (by norm_num), hundredthSignificand]
  norm_num
  ring

theorem rounds_hundredfold_power (e : ℤ) :
    RoundsTo (hundredthSignificand * 2 ^ e * 100) (2 ^ 52) (e + 7) := by
  have hreach := reachBelow_le (2 ^ 52) (e + 7)
  have hshift : (2 : ℚ) ^ (e + 7) = 2 ^ e * 128 := by
    rw [zpow_add₀ (by norm_num)]
    norm_num
  have hvalue : (hundredthSignificand : ℚ) * 2 ^ e * 100 = (2 ^ 52 + 3 / 32) * 2 ^ (e + 7) := by
    rw [hshift, hundredthSignificand]
    norm_num
    ring
  have hunit := (two_zpow_pos (e + 7)).le
  rw [hvalue]
  push_cast
  refine ⟨?_, ?_, by norm_num⟩
  · exact mul_le_mul_of_nonneg_right (by linarith) hunit
  · exact mul_le_mul_of_nonneg_right (by norm_num) hunit

variable {n n' m m' r r' k k' shift : ℕ} {e e' f f' : ℤ}

/-- Powers of two come back. -/
theorem passage_power (hshift : shift ≤ 12) :
    Passage (2 ^ 52 * 2 ^ shift) hundredthSignificand (shift - 7) (2 ^ 52) shift
      (2 ^ 52 * 2 ^ shift) where
  pos := by decide
  canonical := canonical_normal (by decide) (by decide) (by omega) (by omega)
  rounds := by
    have hrounds := rounds_hundredth_power (shift - 7)
    rw [sub_add_cancel, zpow_natCast] at hrounds
    exact_mod_cast hrounds
  canonicalBack := canonical_normal le_rfl (by decide) (by omega) (by omega)
  roundsBack := by
    have hrounds := rounds_hundredfold_power (shift - 7)
    rwa [sub_add_cancel] at hrounds
  nearest := by
    apply roundHalfUp_eq
    rw [cast_mul_two_pow]
    norm_num

/-- The roundings have one outcome. -/
theorem Passage.unique (h : Passage n m e r f k) (h' : Passage n m' e' r' f' k') (hn : 0 < n) :
    r = r' ∧ f = f' ∧ k = k' := by
  have hcast : (0 : ℚ) < n := by exact_mod_cast hn
  have hpos : (0 : ℚ) < m * 2 ^ e := mul_pos (by exact_mod_cast h.pos) (two_zpow_pos e)
  obtain ⟨rfl, rfl⟩ := h.rounds.eq (by positivity) h.canonical h'.canonical h'.rounds
  obtain ⟨rfl, rfl⟩ := h.roundsBack.eq (by positivity) h.canonicalBack h'.canonicalBack h'.roundsBack
  exact ⟨rfl, rfl, h.nearest.symm.trans h'.nearest⟩

/-- The roundings keep the order. -/
theorem Passage.mono (h : Passage n m e r f k) (h' : Passage n' m' e' r' f' k') (hn : 0 < n)
    (hle : n ≤ n') : (r : ℚ) * 2 ^ f ≤ r' * 2 ^ f' := by
  have hcast : (0 : ℚ) < n := by exact_mod_cast hn
  have hpos : (0 : ℚ) < m * 2 ^ e := mul_pos (by exact_mod_cast h.pos) (two_zpow_pos e)
  have hhundredth := h.rounds.mono (by positivity) h.canonical h'.canonical h'.rounds
    (by gcongr)
  exact h.roundsBack.mono (by positivity) h.canonicalBack h'.canonicalBack h'.roundsBack
    (by gcongr)

/-! ### Large amounts -/

/-- What comes back of whole doubles between powers of two is a whole double between them. -/
theorem Passage.bounds (h : Passage n m e r f k) (hlow : 2 ^ 53 ≤ n) (hhigh : n ≤ 2 ^ 63) :
    2 ^ 53 ≤ (r : ℚ) * 2 ^ f ∧ (r : ℚ) * 2 ^ f ≤ 2 ^ 63 := by
  have hge := (passage_power (show 1 ≤ 12 by norm_num)).mono h (by norm_num) (by omega)
  have hle := h.mono (passage_power (show 11 ≤ 12 by norm_num)) (by omega) (by omega)
  norm_num at hge hle ⊢
  exact ⟨hge, hle⟩

/-- What comes back is a whole number, so it is not rounded to cents. -/
theorem Passage.whole (h : Passage n m e r f k) (hlow : 2 ^ 53 ≤ n) (hhigh : n ≤ 2 ^ 63) :
    ∃ s : ℕ, f = s ∧ k = r * 2 ^ s ∧ 2 ^ 53 ≤ k ∧ k ≤ 2 ^ 63 := by
  obtain ⟨hge, hle⟩ := h.bounds hlow hhigh
  have hexponent := h.canonicalBack.exponent_pos hge
  obtain ⟨s, rfl⟩ := Int.eq_ofNat_of_zero_le (show 0 ≤ f by omega)
  have hk : k = r * 2 ^ s := by
    rw [← h.nearest]
    apply roundHalfUp_eq
    rw [cast_mul_two_pow]
    norm_num
  rw [← cast_mul_two_pow, ← hk] at hge hle
  exact ⟨s, rfl, hk, by exact_mod_cast hge, by exact_mod_cast hle⟩

/-- Where the units are seven binades or more apart, what comes back of a double is the double,
    unless that begins a binade. -/
theorem Passage.back_eq (h : Passage (m' * 2 ^ shift) m e r f k) (hcanonical : Canonical m' shift)
    (hbinade : m' ≠ 2 ^ 52) (hfine : e + 7 ≤ shift) : r = m' ∧ f = shift := by
  have herror := h.rounds.error_le_half
  have hpower : (2 : ℚ) ^ e * 128 ≤ 2 ^ (shift : ℤ) := by
    have hle : (2 : ℚ) ^ (e + 7) ≤ 2 ^ (shift : ℤ) := two_zpow_le hfine
    rw [zpow_add₀ (by norm_num)] at hle
    norm_num at hle ⊢
    linarith
  have hunit := two_zpow_pos e
  have hm : (0 : ℚ) < m * 2 ^ e * 100 := by
    have hcast : (0 : ℚ) < m := by exact_mod_cast h.pos
    positivity
  rw [cast_mul_two_pow] at herror
  obtain ⟨hlow, hhigh⟩ := abs_le.1 herror
  have hback : RoundsTo ((m : ℚ) * 2 ^ e * 100) m' shift := by
    apply RoundsTo.of_near hbinade
    rw [abs_lt]
    constructor <;> linarith
  exact h.roundsBack.eq hm h.canonicalBack hcanonical hback

/-- One hundred times the least significand of a binade is held exactly. -/
theorem Passage.back_exact (h : Passage n (2 ^ 52) e r f k) (hhigh : e ≤ 11) :
    (r : ℚ) * 2 ^ f = 2 ^ 52 * 2 ^ e * 100 := by
  have hvalue : ((2 ^ 52 : ℕ) : ℚ) * 2 ^ e * 100 = (7036874417766400 : ℕ) * 2 ^ (e + 6) := by
    rw [zpow_add₀ (by norm_num)]
    norm_num
    ring
  have hcanonical : Canonical 7036874417766400 (e + 6) := by
    have hleast := h.canonical.least
    refine ⟨by norm_num, .inl (by norm_num), by omega, ?_⟩
    unfold greatestExponent
    omega
  have hpos : (0 : ℚ) < (2 ^ 52 : ℕ) * 2 ^ e * 100 := by positivity
  have hself : RoundsTo ((2 ^ 52 : ℕ) * 2 ^ e * 100) 7036874417766400 (e + 6) := by
    rw [hvalue]
    exact Canonical.roundsTo_self
  obtain ⟨rfl, rfl⟩ := h.roundsBack.eq hpos h.canonicalBack hcanonical hself
  rw [← hvalue]
  norm_num

/-- Where they are at most six binades apart, a hundredth of what comes back is rounded to the first
    hundredth. -/
theorem Passage.again (h : Passage n m e r f k) (hvalue : (k : ℚ) = r * 2 ^ f) (hhigh : e ≤ 11)
    (hcoarse : f ≤ e + 6) : Passage k m e r f k where
  pos := h.pos
  canonical := h.canonical
  canonicalBack := h.canonicalBack
  roundsBack := h.roundsBack
  nearest := h.nearest
  rounds := by
    rw [hvalue]
    by_cases hbinade : m = 2 ^ 52
    · subst hbinade
      have hself : (r : ℚ) * 2 ^ f / 100 = (2 ^ 52 : ℕ) * 2 ^ e := by
        rw [h.back_exact hhigh]
        push_cast
        ring
      rw [hself]
      exact Canonical.roundsTo_self
    · have hunit := two_zpow_pos e
      have hpower : (2 : ℚ) ^ f ≤ 2 ^ e * 64 := by
        have hle : (2 : ℚ) ^ f ≤ 2 ^ (e + 6) := two_zpow_le hcoarse
        rw [zpow_add₀ (by norm_num)] at hle
        norm_num at hle ⊢
        linarith
      apply RoundsTo.of_near hbinade
      obtain ⟨hlow, hhigh⟩ := abs_le.1 h.roundsBack.error_le_half
      rw [abs_lt]
      constructor <;> linarith

/-- Doubles up to `2 ^ 63` cents are at most `2 ^ 11` apart at a hundredth. -/
theorem Passage.exponent_le (h : Passage n m e r f k) (hhigh : n ≤ 2 ^ 63) : e ≤ 11 := by
  have hcast : (n : ℚ) ≤ 9223372036854775808 := by exact_mod_cast hhigh
  have hdouble := h.rounds.le_double (by positivity)
  apply h.canonical.exponent_le (by decide)
  norm_num
  linarith

/-- **What has come back comes back as itself.** -/
theorem Passage.settles (h : Passage (m' * 2 ^ shift) m e r f k) (hcanonical : Canonical m' shift)
    (hlow : 2 ^ 53 ≤ m' * 2 ^ shift) (hhigh : m' * 2 ^ shift ≤ 2 ^ 63) :
    ∃ m'' e'', Passage k m'' e'' r f k := by
  obtain ⟨s, rfl, hk, -, -⟩ := h.whole hlow hhigh
  have hm : 2 ^ 52 ≤ m' := hcanonical.normal.resolve_right (by unfold leastExponent; omega)
  have hshift : shift ≤ 11 := by
    have hpower : 2 ^ 52 * 2 ^ shift ≤ 2 ^ 52 * 2 ^ 11 := (Nat.mul_le_mul_right _ hm).trans hhigh
    exact (Nat.pow_le_pow_iff_right (by norm_num)).1 (Nat.le_of_mul_le_mul_left hpower (by norm_num))
  by_cases hbinade : m' = 2 ^ 52
  · subst hbinade
    obtain ⟨-, -, rfl⟩ := h.unique (passage_power (by omega)) (by positivity)
    exact ⟨m, e, h⟩
  rcases le_or_gt (e + 7) shift with hfine | hcoarse
  · obtain ⟨rfl, hs⟩ := h.back_eq hcanonical hbinade hfine
    obtain rfl : s = shift := by exact_mod_cast hs
    rw [← hk] at h
    exact ⟨m, e, h⟩
  · -- The next power of two is an upper bound, and below it the unit is the same.
    have hpower := passage_power (show shift + 1 ≤ 12 by omega)
    have hnext : m' * 2 ^ shift ≤ 2 ^ 52 * 2 ^ (shift + 1) := by
      rw [pow_succ 2 shift, mul_comm (2 ^ shift), ← mul_assoc]
      exact Nat.mul_le_mul_right _ hcanonical.lt.le
    rcases (h.mono hpower (by omega) hnext).eq_or_lt with heq | hlt
    · obtain ⟨rfl, hs⟩ :=
        hpower.canonicalBack.eq_of_value h.canonicalBack (by norm_num) heq.symm
      obtain rfl : shift + 1 = s := by exact_mod_cast hs
      rw [hk]
      exact ⟨_, _, hpower⟩
    · have hbelow : (r : ℚ) * 2 ^ (s : ℤ) < 2 ^ (53 + (shift : ℤ)) := by
        have hsum : 53 + (shift : ℤ) = 52 + (shift + 1 : ℕ) := by
          push_cast
          ring
        rw [hsum, zpow_add₀ (by norm_num)]
        exact_mod_cast hlt
      have hunit : (s : ℤ) ≤ shift :=
        h.canonicalBack.exponent_le (by unfold leastExponent; omega) hbelow
      have hvalue : (k : ℚ) = r * 2 ^ (s : ℤ) := by rw [hk, cast_mul_two_pow]
      exact ⟨m, e, h.again hvalue (h.exponent_le hhigh) (by omega)⟩

/-- All of the roundings give doubles. -/
theorem exists_passage_large (hlow : 2 ^ 53 ≤ n) (hhigh : n ≤ 2 ^ 63) :
    ∃ m e r f k, Passage n m e r f k := by
  have hcast : (n : ℚ) ≤ 9223372036854775808 := by exact_mod_cast hhigh
  have hcast' : (9007199254740992 : ℚ) ≤ n := by exact_mod_cast hlow
  obtain ⟨m, e, -, hcanonical, hrounds⟩ :=
    exists_rounding false (show 0 < n by omega) (d := 100) (by norm_num) (by norm_num; linarith)
  push_cast at hrounds
  have hm : 0 < m := hrounds.pos_of_one_le hcanonical (by linarith)
  have hdouble := hrounds.le_double (by positivity)
  obtain ⟨r, f, -, hcanonical', hrounds'⟩ := exists_rounding false (n := m * 100 * 2 ^ e.toNat)
    (d := 2 ^ (-e).toNat) (by positivity) (by positivity) (by rw [hundredfold_eq]; linarith)
  rw [hundredfold_eq] at hrounds'
  exact ⟨m, e, r, f, _, hm, hcanonical, hrounds, hcanonical', hrounds', rfl⟩

/-- A whole double from `2 ^ 53` on gives a word that is rounded to the double. The greatest such
    double is no word, and gives the one before it. -/
theorem ofInt_toWord (negative : Bool) {s : ℕ} (hcanonical : Canonical r s)
    (hnearest : roundHalfUp r s = r * 2 ^ s) (hlow : 2 ^ 53 ≤ r * 2 ^ s)
    (hhigh : r * 2 ^ s ≤ 2 ^ 63) :
    Binary64.ofInt (finite negative r s).toWord.toInt = .finite negative r s := by
  have hr : 0 < r := Nat.pos_of_mul_pos_right (hlow.trans_lt' (by norm_num))
  have hheld (sign : Bool) : ofRatio sign (r * 2 ^ s) 1 = .finite sign r s :=
    ofRatio_of_value sign one_pos hr hcanonical (by rw [cast_mul_two_pow]; norm_num)
  cases negative with
  | true =>
    rw [toWord, hnearest, toInt_clamp (by omega) (by omega), Binary64.ofInt, Int.natAbs_neg,
      Int.natAbs_natCast, decide_eq_true (by omega), hheld]
  | false =>
    rw [toWord, hnearest]
    rcases hhigh.eq_or_lt with heq | hlt
    · have hword : Binary64.ofInt (clamp (2 ^ 63 : ℕ)).toInt = ofRatio false (2 ^ 63) 1 := by
        decide +kernel
      rw [heq, hword, ← heq, hheld]
    · rw [toInt_clamp (by omega) (by omega), Binary64.ofInt, Int.natAbs_natCast,
        decide_eq_false (by omega), hheld]

/-! ### Both ways -/

theorem settles_large {amount : Money} (hlarge : 2 ^ 53 ≤ amount.cents.toInt.natAbs) :
    ofDecimal (ofDecimal amount.toDecimal).toDecimal = ofDecimal amount.toDecimal := by
  obtain ⟨m₀, shift, hcanonical, hlow, hhigh, hcents⟩ := exists_ofRatio_large
    (decide (amount.cents.toInt < 0)) hlarge (natAbs_toInt_le amount.cents)
  obtain ⟨m, e, r, f, k, hpassage⟩ := exists_passage_large hlow hhigh
  obtain ⟨m', e', hagain⟩ := hpassage.settles hcanonical hlow hhigh
  obtain ⟨s, rfl, rfl, hk, hk'⟩ := hpassage.whole hlow hhigh
  have hback : amount.toDecimal.mul hundred = .finite (decide (amount.cents.toInt < 0)) r s :=
    toDecimal_mul_hundred (Nat.pos_of_mul_pos_right (hlow.trans_lt' (by norm_num))) hcents
      (cast_mul_two_pow m₀ shift).symm hpassage
  have hword := ofInt_toWord (decide (amount.cents.toInt < 0)) hpassage.canonicalBack
    hpassage.nearest hk hk'
  rw [← hback] at hword
  have hback' : (ofDecimal amount.toDecimal).toDecimal.mul hundred = amount.toDecimal.mul hundred :=
    (toDecimal_mul_hundred (Nat.pos_of_mul_pos_right (hk.trans_lt' (by norm_num)))
      (hword.trans hback) (cast_mul_two_pow r s).symm hagain).trans hback.symm
  rw [ofDecimal, hback', ofDecimal]

theorem settles_small {amount : Money} (hsmall : amount.cents.toInt.natAbs ≤ 2 ^ 53) :
    ofDecimal (ofDecimal amount.toDecimal).toDecimal = ofDecimal amount.toDecimal := by
  have hback := toInt_ofDecimal_toDecimal hsmall
  have hbounds := drift_bounds amount.cents.toInt.natAbs
  have hmagnitude : ((ofDecimal amount.toDecimal).cents.toInt.natAbs : ℤ) =
      amount.cents.toInt.natAbs + drift amount.cents.toInt.natAbs := by
    rw [hback]
    rcases lt_trichotomy amount.cents.toInt 0 with hnegative | hzero | hpositive
    · rw [Int.sign_eq_neg_one_of_neg hnegative]
      omega
    · rw [hzero]
      rfl
    · rw [Int.sign_eq_one_of_pos hpositive]
      omega
  obtain ⟨hle, hdrift⟩ := drift_drift hsmall hmagnitude
  exact (ofDecimal_toDecimal_iff hle).2 hdrift

theorem ofDecimal_settles (amount : Money) :
    ofDecimal (ofDecimal amount.toDecimal).toDecimal = ofDecimal amount.toDecimal := by
  rcases le_total (2 ^ 53) amount.cents.toInt.natAbs with hlarge | hsmall
  · exact settles_large hlarge
  · exact settles_small hsmall

/-- The amount after so many trips through its decimal form, unless one of them is refused. -/
def trips (amount : Money) : ℕ → Except DecodeError Money
  | 0 => .ok amount
  | count + 1 => do ofUnits (← amount.trips count).toDecimal

/-- **Amounts settle.** The decimal form of every amount, up to the extreme ones, is accepted as an
    amount again, and that one comes back from its own decimal form as it is. So however often an amount
    is written and read, it changes at the first time only. -/
theorem decimal_settles (amount : Money) :
    ∃ back, ofUnits amount.toDecimal = .ok back ∧ ofUnits back.toDecimal = .ok back ∧
      ∀ count, 0 < count → amount.trips count = .ok back := by
  have hagain : ofUnits (ofDecimal amount.toDecimal).toDecimal = .ok (ofDecimal amount.toDecimal) := by
    rw [ofUnits_toDecimal, ofDecimal_settles]
  refine ⟨_, ofUnits_toDecimal amount, hagain, ?_⟩
  intro count hcount
  induction count with
  | zero => omega
  | succ count ih =>
    rcases Nat.eq_zero_or_pos count with rfl | hpos
    · exact ofUnits_toDecimal amount
    · rw [trips, ih hpos]
      exact hagain

example : ofDecimal (toDecimal ⟨9007199254740993⟩) = ⟨9007199254740992⟩ ∧
    ofDecimal (toDecimal ⟨Int64.maxValue⟩) = ⟨Int64.maxValue⟩ := by
  decide +kernel

end Money

end Bookshop
