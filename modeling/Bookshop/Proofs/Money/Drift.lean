import Bookshop.Proofs.Money.Kept

/-!
# Where the decimal form drifts

Up to `decimalRange` cents an amount comes back from its decimal form. Above that the doubles are so
far apart that one hundred times the double nearest to a hundredth is not always nearest to the
cents, and some amounts come back one cent off. How far off the double is depends on the cents modulo
25 only, because over the unit of its binade a hundredth is a whole number of twenty-fifths.

The main statement is `decimal_drift`: up to `2 ^ 53` cents an amount comes back, from the decimal
form and from the document of it alike, moved away from zero by `drift` cents. Documents of
different amounts differ up to twice the range.
-/

namespace Bookshop

namespace Binary64

/-! ### Near doubles -/

/-- A fraction that is off a double by some parts of a unit, up to half of them, rounds to the
    double, unless that begins a binade. -/
theorem RoundsTo.of_parts {q : ℚ} {m : ℕ} {e : ℤ} (parts : ℤ) (whole : ℕ) (hm : m ≠ 2 ^ 52)
    (hwhole : 0 < whole) (hvalue : q = (m + parts / whole) * 2 ^ e) (hlow : -(whole : ℤ) ≤ 2 * parts)
    (hhigh : 2 * parts ≤ whole)
    (hodd : m % 2 = 1 → -(whole : ℤ) < 2 * parts ∧ 2 * parts < whole) : RoundsTo q m e := by
  have hpos : (0 : ℚ) < whole := by exact_mod_cast hwhole
  have hunit := two_zpow_pos e
  have hreach : reachBelow m e = 1 / 2 := by rw [reachBelow, if_neg fun hbegins => hm hbegins.1]
  rw [hvalue, roundsTo_iff, hreach, mul_le_mul_iff_left₀ hunit, mul_le_mul_iff_left₀ hunit,
    mul_lt_mul_iff_left₀ hunit, mul_lt_mul_iff_left₀ hunit, sub_eq_add_neg]
  simp only [add_le_add_iff_left, add_lt_add_iff_left]
  rw [le_div_iff₀ hpos, div_le_iff₀ hpos, lt_div_iff₀ hpos, div_lt_iff₀ hpos]
  have hlowCast : -(whole : ℚ) ≤ 2 * parts := by exact_mod_cast hlow
  have hhighCast : 2 * parts ≤ (whole : ℚ) := by exact_mod_cast hhigh
  refine ⟨by linarith, by linarith, ?_⟩
  intro hparity
  obtain ⟨hlow, hhigh⟩ := hodd hparity
  have hlowCast : -(whole : ℚ) < 2 * parts := by exact_mod_cast hlow
  have hhighCast : 2 * parts < (whole : ℚ) := by exact_mod_cast hhigh
  exact ⟨by linarith, by linarith⟩

theorem roundHalfUp_whole (m : ℕ) : roundHalfUp m 0 = m := by
  simp [roundHalfUp]
  omega

theorem roundHalfUp_halves (m : ℕ) : roundHalfUp m (-1) = (m + 1) / 2 := by
  simp [roundHalfUp]
  omega

end Binary64

namespace Money

open Binary64

/-! ### The drift -/

/-- By how many cents the magnitude of an amount of `n` cents grows on the way through its decimal
    form, for amounts of up to `2 ^ 53` cents. One hundred times the double is `n` less a part of a
    cent: `32 * n` or `16 * n` modulo 25, in parts of 32 or 16. That is rounded to half cents below
    `2 ^ 52` and to cents from there on, and then half a cent goes up. -/
def drift (n : ℕ) : ℤ :=
  if n ≤ decimalRange then 0
  else if n < 2 ^ 52 then
    if Int.bmod (32 * n) 25 < -8 then 1 else 0
  else if n ≤ 2 * decimalRange then 0
  else
    let excess := Int.bmod (16 * n) 25
    if excess < -8 ∨ excess = -8 ∧ n % 2 = 1 then 1
    else if 8 < excess ∨ excess = 8 ∧ n % 2 = 1 then -1
    else 0

theorem drift_of_le {n : ℕ} (h : n ≤ decimalRange) : drift n = 0 := if_pos h

theorem drift_bounds (n : ℕ) : -1 ≤ drift n ∧ drift n ≤ 1 := by
  unfold drift
  simp only
  omega

/-- The remainder of least magnitude modulo 25 is one of 25 numbers around zero. -/
theorem bmod_bounds (x : ℤ) : -12 ≤ Int.bmod x 25 ∧ Int.bmod x 25 ≤ 12 :=
  ⟨Int.le_bmod (by decide), Int.bmod_le (by decide)⟩

/-! ### The two roundings -/

/-- A hundredth over the unit of its binade, less the remainder modulo 25, is the significand of the
    double nearest to it. -/
theorem exists_hundredth_significand (shift : ℕ) {n : ℕ} {e : ℤ} (he : e = -(shift + 2))
    (hshift : shift ≤ 5) (hlow : 25 * 2 ^ 52 + 12 < 2 ^ shift * n)
    (hhigh : 2 ^ shift * n + 12 < 25 * 2 ^ 53) :
    ∃ m : ℕ, 0 < m ∧ Canonical m e ∧ RoundsTo ((n : ℚ) / 100) m e ∧
      (m : ℚ) * 2 ^ e * 100 = n - (Int.bmod (2 ^ shift * n) 25 : ℤ) / 2 ^ shift := by
  have hquotient := Int.bmod_add_bdiv (2 ^ shift * n) 25
  obtain ⟨hleast, hgreatest⟩ := bmod_bounds (2 ^ shift * n)
  have hlowInt : (25 * 2 ^ 52 + 12 : ℤ) < 2 ^ shift * n := by exact_mod_cast hlow
  have hhighInt : (2 ^ shift * n + 12 : ℤ) < 25 * 2 ^ 53 := by exact_mod_cast hhigh
  generalize Int.bmod (2 ^ shift * n) 25 = excess at hquotient hleast hgreatest ⊢
  generalize Int.bdiv (2 ^ shift * n) 25 = quotient at hquotient
  obtain ⟨m, rfl⟩ := Int.eq_ofNat_of_zero_le (show 0 ≤ quotient by omega)
  have hvalue : (excess : ℚ) + 25 * m = 2 ^ shift * n := by exact_mod_cast hquotient
  have hunit : (2 : ℚ) ^ e = 1 / (4 * 2 ^ shift) := by
    rw [he, zpow_neg, zpow_add₀ (by norm_num), zpow_natCast]
    norm_num
    ring
  refine ⟨m, by omega, ⟨by omega, .inl (by omega), ?_, ?_⟩, ?_, ?_⟩
  · unfold leastExponent
    omega
  · unfold greatestExponent
    omega
  · refine .of_parts excess 25 (by omega) (by norm_num) ?_ (by omega)
      (by omega) fun _ => by omega
    rw [hunit]
    push_cast
    field_simp
    linarith
  · rw [hunit]
    field_simp
    linarith

/-- The roundings on the way of `n` cents: a hundredth of them to a double, and one hundred times
    that to another one, which is nearest to `k`. -/
structure Passage (n m : ℕ) (e : ℤ) (r : ℕ) (f : ℤ) (k : ℕ) : Prop where
  pos : 0 < m
  canonical : Canonical m e
  rounds : RoundsTo ((n : ℚ) / 100) m e
  canonicalBack : Canonical r f
  roundsBack : RoundsTo (m * 2 ^ e * 100) r f
  nearest : roundHalfUp r f = k

/-- Below `2 ^ 52` one hundred times the double is rounded to half cents. -/
theorem passage_halves {n : ℕ} (hlow : decimalRange < n) (hhigh : n < 2 ^ 52) :
    ∃ m e r f k, Passage n m e r f k ∧ (k : ℤ) = n + drift n := by
  have hdrift : drift n = if Int.bmod (2 ^ 5 * n) 25 < -8 then 1 else 0 := by
    rw [drift, if_neg (not_le.2 hlow), if_pos hhigh]
    norm_num
  unfold decimalRange at hlow
  obtain ⟨m, hpos, hcanonical, hrounds, hvalue⟩ :=
    exists_hundredth_significand 5 (n := n) (e := -7) (by norm_num) le_rfl (by omega)
      (by omega)
  obtain ⟨hleast, hgreatest⟩ := bmod_bounds (2 ^ 5 * n)
  rw [hdrift]
  generalize Int.bmod (2 ^ 5 * n) 25 = excess at *
  obtain ⟨r, step, hr, hstep⟩ : ∃ (r : ℕ) (step : ℤ), (r : ℤ) = 2 * n + step ∧
      step = if excess < -8 then 1 else if 8 < excess then -1 else 0 := by
    refine ⟨(2 * n + if excess < -8 then 1 else if 8 < excess then -1 else 0 : ℤ).toNat, _, ?_, rfl⟩
    omega
  have hcast : (r : ℚ) = 2 * n + step := by exact_mod_cast hr
  refine ⟨m, -7, r, -1, (r + 1) / 2, ⟨hpos, hcanonical, hrounds, ?_, ?_, roundHalfUp_halves r⟩, ?_⟩
  · exact ⟨by omega, .inl (by omega), by decide, by decide⟩
  · refine .of_parts (-(excess + 16 * step)) 16 (by omega) (by norm_num) ?_
      (by omega) (by omega) (by omega)
    rw [hvalue, hcast]
    push_cast
    ring
  · omega

/-- From there on to cents, and up to twice the range the double is near enough. -/
theorem passage_near {n : ℕ} (hlow : 2 ^ 52 < n) (hhigh : n < 2 * decimalRange) :
    ∃ m e r f, Passage n m e r f n := by
  unfold decimalRange at hhigh
  obtain ⟨m, hpos, hcanonical, hrounds, hvalue⟩ :=
    exists_hundredth_significand 5 (n := n) (e := -7) (by norm_num) le_rfl (by omega)
      (by omega)
  obtain ⟨hleast, hgreatest⟩ := bmod_bounds (2 ^ 5 * n)
  generalize Int.bmod (2 ^ 5 * n) 25 = excess at *
  refine ⟨m, -7, n, 0, ⟨hpos, hcanonical, hrounds, ?_, ?_, roundHalfUp_whole n⟩⟩
  · exact ⟨by omega, .inl hlow.le, by decide, by decide⟩
  · refine .of_parts (-excess) 32 (by omega) (by norm_num) ?_ (by omega)
      (by omega) (by omega)
    rw [hvalue]
    push_cast
    ring

/-- Above twice the range the doubles near to a hundredth are wider apart than hundredths. -/
theorem passage_wide {n : ℕ} (hlow : 2 * decimalRange < n) (hhigh : n < 2 ^ 53 - 1) :
    ∃ m e r f k, Passage n m e r f k ∧ (k : ℤ) = n + drift n := by
  have hpower : (16 : ℤ) * n = 2 ^ 4 * n := by norm_num
  have habove : ¬ n ≤ decimalRange := by unfold decimalRange at *; omega
  have hcents : ¬ n < 2 ^ 52 := by unfold decimalRange at *; omega
  obtain ⟨step, hstep⟩ : ∃ step, step = drift n := ⟨_, rfl⟩
  rw [← hstep]
  simp only [drift, if_neg habove, if_neg hcents, if_neg (not_le.2 hlow), hpower] at hstep
  unfold decimalRange at hlow
  obtain ⟨m, hpos, hcanonical, hrounds, hvalue⟩ :=
    exists_hundredth_significand 4 (n := n) (e := -6) (by norm_num) (by norm_num)
      (by omega) (by omega)
  obtain ⟨hleast, hgreatest⟩ := bmod_bounds (2 ^ 4 * n)
  generalize Int.bmod (2 ^ 4 * n) 25 = excess at *
  obtain ⟨r, hr⟩ : ∃ r : ℕ, (r : ℤ) = n + step := ⟨(n + step).toNat, by omega⟩
  have hcast : (r : ℚ) = n + step := by exact_mod_cast hr
  refine ⟨m, -6, r, 0, r, ⟨hpos, hcanonical, hrounds, ?_, ?_, roundHalfUp_whole r⟩, hr⟩
  · exact ⟨by omega, .inl (by omega), by decide, by decide⟩
  · refine .of_parts (-(excess + 16 * step)) 16 (by omega) (by norm_num) ?_
      (by omega) (by omega) (by omega)
    rw [hvalue, hcast]
    push_cast
    ring

/-! ### There and back -/

/-- The roundings of the cents, as a double holds them, make the double that is rounded to cents. -/
theorem toDecimal_mul_hundred {amount : Money} {negative : Bool} {n m₀ m r k : ℕ} {e₀ e f : ℤ}
    (hm₀ : 0 < m₀) (hcents : Binary64.ofInt amount.cents.toInt = .finite negative m₀ e₀)
    (hvalue : (m₀ : ℚ) * 2 ^ e₀ = n) (h : Passage n m e r f k) :
    amount.toDecimal.mul hundred = .finite negative r f := by
  have hpos : 0 < n := by
    have hcast : (0 : ℚ) < n := by
      rw [← hvalue]
      exact mul_pos (by exact_mod_cast hm₀) (two_zpow_pos e₀)
    exact_mod_cast hcast
  have hm := h.pos
  have hquotient : amount.toDecimal = .finite negative m e := by
    rw [toDecimal, hcents, hundred_eq,
      div_finite _ false (by norm_num) (n := n) (d := 100) (by norm_num), Bool.bne_false,
      ofRatio_eq_finite_iff _ hpos (by norm_num)]
    · exact ⟨h.canonical, by exact_mod_cast h.rounds⟩
    · rw [hvalue]
      norm_num
  rw [hquotient, mul_hundred, ofRatio_eq_finite_iff _ (by positivity) (by positivity), hundredfold_eq]
  exact ⟨h.canonicalBack, h.roundsBack⟩

/-- The roundings of the magnitude make the amount that comes back. -/
theorem ofDecimal_of_passage {amount : Money} (hne : amount.cents ≠ 0)
    (hlt : amount.cents.toInt.natAbs < 2 ^ 53) {m r k : ℕ} {e f : ℤ}
    (h : Passage amount.cents.toInt.natAbs m e r f k) (hk : k ≤ 2 ^ 53) :
    (ofDecimal amount.toDecimal).cents.toInt = amount.cents.toInt.sign * k := by
  have hpos : 0 < amount.cents.toInt.natAbs :=
    Int.natAbs_pos.2 fun hzero => hne (Int64.toInt_inj.1 hzero)
  obtain ⟨m₀, e₀, hm₀, hcents, hvalue⟩ := ofRatio_whole (decide (amount.cents.toInt < 0)) hpos hlt
  rw [ofDecimal, toDecimal_mul_hundred hm₀ hcents hvalue h]
  by_cases hnegative : amount.cents.toInt < 0
  · simp only [hnegative, decide_true, toWord, h.nearest, Int.sign_eq_neg_one_of_neg hnegative]
    rw [toInt_clamp (by omega) (by omega)]
    omega
  · have hsign : amount.cents.toInt.sign = 1 := Int.sign_eq_one_of_pos (by omega)
    simp only [hnegative, decide_false, toWord, h.nearest, hsign]
    rw [toInt_clamp (by omega) (by omega)]
    omega

/-! ### Ends of stretches -/

/-- The numbers of cents at which the spacing of the doubles on the way changes. -/
def corners : List ℕ := [0, 2 ^ 52, 2 * decimalRange, 2 ^ 53 - 1, 2 ^ 53]

/-- They are looked at one by one. -/
theorem corner_returns {amount : Money} (h : amount.cents.toInt.natAbs ∈ corners) :
    drift amount.cents.toInt.natAbs = 0 ∧ ofDecimal amount.toDecimal = amount ∧
      Codec.double.read (codec.write amount) = .ok amount.toDecimal := by
  have hcorners : ∀ n ∈ corners, ∀ negative : Bool,
      let corner : Money := ⟨Int64.ofInt (if negative then -n else n)⟩
      drift n = 0 ∧ ofDecimal corner.toDecimal = corner ∧
        Codec.double.read (codec.write corner) = .ok corner.toDecimal := by
    decide +kernel
  obtain ⟨hdrift, hback, hread⟩ := hcorners _ h (decide (amount.cents.toInt < 0))
  have hvalue : (if decide (amount.cents.toInt < 0) = true then -(amount.cents.toInt.natAbs : ℤ)
      else amount.cents.toInt.natAbs) = amount.cents.toInt := by
    simp only [decide_eq_true_eq]
    omega
  rw [hvalue, Int64.ofInt_toInt] at hback hread
  exact ⟨hdrift, hback, hread⟩

/-- Any other amount is not zero and has fewer cents than the greatest corners. -/
theorem of_not_corner {amount : Money} (h : amount.cents.toInt.natAbs ≤ 2 ^ 53)
    (hcorner : amount.cents.toInt.natAbs ∉ corners) :
    amount.cents ≠ 0 ∧ amount.cents.toInt.natAbs ≠ 2 ^ 52 ∧
      amount.cents.toInt.natAbs ≠ 2 * decimalRange ∧ amount.cents.toInt.natAbs < 2 ^ 53 - 1 := by
  simp only [corners, List.mem_cons, List.not_mem_nil, or_false, not_or] at hcorner
  obtain ⟨hzero, hmiddle, htwice, hlast, hend⟩ := hcorner
  refine ⟨?_, hmiddle, htwice, by omega⟩
  intro hcents
  rw [hcents] at hzero
  exact hzero rfl

/-! ### Through the document -/

/-- The shortest decimal of an amount has so few digits that its numeral is read exactly. -/
theorem shortest_fits {n c m : ℕ} {e k : ℤ} (hn : n < 2 ^ 53 - 1) (hk : -2 ≤ k)
    (hcanonical : Canonical m e) (hrounds : RoundsTo ((n : ℚ) / 100) m e)
    (hshort : RoundsTo ((c : ℚ) * 10 ^ k) m e) : c * 10 ^ (k + 1).toNat < 2 ^ 53 := by
  have hcents : (n : ℚ) + 2 ≤ 2 ^ 53 := by
    have hnat : n + 2 ≤ 2 ^ 53 := by omega
    exact_mod_cast hnat
  have herror := hrounds.error_le hcanonical (k := 47) (by decide)
    (by norm_num at hcents ⊢; linarith)
  norm_num at hcents herror
  obtain ⟨hlow, -⟩ := abs_le.1 herror
  have hpower : Canonical (2 ^ 52) (-5) := by decide
  have hsize : (c : ℚ) * 10 ^ k ≤ 2 ^ (47 : ℤ) := by
    by_contra hgt
    have hdouble := hshort.double_le hcanonical hpower (by norm_num) (by norm_num at hgt ⊢; linarith)
    norm_num at hdouble
    linarith
  have herror' := hshort.error_le hcanonical (k := 47) (by decide) hsize
  norm_num at herror'
  obtain ⟨-, hhigh⟩ := abs_le.1 herror'
  have hshifted := Numeral.shifted_le (c := c) hk
  have hcast : ((c * 10 ^ (k + 1).toNat : ℕ) : ℚ) < (2 ^ 53 : ℕ) := by
    norm_num at hshifted ⊢
    linarith
  exact_mod_cast hcast

theorem exists_toDecimal_rounds {amount : Money} (hne : amount.cents ≠ 0)
    (hlt : amount.cents.toInt.natAbs < 2 ^ 53) :
    ∃ m e, 0 < m ∧ amount.toDecimal = .finite (decide (amount.cents.toInt < 0)) m e ∧
      Canonical m e ∧ RoundsTo ((amount.cents.toInt.natAbs : ℚ) / 100) m e ∧
      (2 : ℚ) ^ (-7 : ℤ) < m * 2 ^ e ∧ (m : ℚ) * 2 ^ e ≤ decimalLimit := by
  obtain ⟨whole, m, e, -, hdecimal, hcanonical, -, hlow, hhigh⟩ := exists_toDecimal hne
  have hpos : 0 < amount.cents.toInt.natAbs :=
    Int.natAbs_pos.2 fun hzero => hne (Int64.toInt_inj.1 hzero)
  have hrounds : RoundsTo ((amount.cents.toInt.natAbs : ℚ) / (100 : ℕ)) m e := by
    rw [toDecimal_eq hne hlt] at hdecimal
    exact ((ofRatio_eq_finite_iff _ hpos (by norm_num)).1 hdecimal).2
  refine ⟨m, e, ?_, hdecimal, hcanonical, by exact_mod_cast hrounds, hlow, hhigh⟩
  rcases Nat.eq_zero_or_pos m with rfl | hm
  · norm_num at hlow
  · exact hm

/-- The numeral of an amount is read as its decimal form. -/
theorem read_toDecimal {amount : Money} (h : amount.cents.toInt.natAbs ≤ 2 ^ 53) :
    Codec.double.read (codec.write amount) = .ok amount.toDecimal := by
  by_cases hcorner : amount.cents.toInt.natAbs ∈ corners
  · exact (corner_returns hcorner).2.2
  obtain ⟨hne, -, -, hlt⟩ := of_not_corner h hcorner
  obtain ⟨m, e, hm, hdecimal, hcanonical, hrounds, hlow, hhigh⟩ :=
    exists_toDecimal_rounds hne (by omega)
  obtain ⟨c, k, hshortest, hk, hk', hshort, -⟩ := exists_shortest hm hcanonical hrounds hlow hhigh
  obtain ⟨numeral, hspelled, hwellFormed, hread⟩ :=
    Numeral.toBinary64?_ofBinary64? (decide (amount.cents.toInt < 0)) hm hcanonical hshortest hshort
      (by omega) (by omega) (shortest_fits hlt hk hcanonical hrounds hshort)
  rw [← hdecimal] at hspelled hread
  exact (Codec.double_readsBack hspelled hwellFormed hread).read_write

/-- No decimal form is above the limit for amounts from outside. -/
theorem ofUnits_toDecimal (amount : Money) :
    ofUnits amount.toDecimal = .ok (ofDecimal amount.toDecimal) := by
  by_cases hne : amount.cents = 0
  · obtain rfl : amount = zero := eq_zero_of_cents hne
    decide +kernel
  · obtain ⟨whole, m, e, -, hdecimal, -, -, -, hhigh⟩ := exists_toDecimal hne
    rw [hdecimal, ofUnits, magnitudeExceeds_eq_false hhigh]
    rfl

/-- The document of an amount is read as what its decimal form gives back. -/
theorem read_write_eq_ofDecimal {amount : Money} (h : amount.cents.toInt.natAbs ≤ 2 ^ 53) :
    codec.read (codec.write amount) = .ok (ofDecimal amount.toDecimal) :=
  Codec.read_convert (read_toDecimal h) (ofUnits_toDecimal amount)

/-! ### The cents that come back -/

theorem exists_passage {n : ℕ} (hlow : decimalRange < n) (hmiddle : n ≠ 2 ^ 52)
    (htwice : n ≠ 2 * decimalRange) (hhigh : n < 2 ^ 53 - 1) :
    ∃ m e r f k, Passage n m e r f k ∧ (k : ℤ) = n + drift n := by
  rcases Nat.lt_or_ge n (2 ^ 52) with hhalves | hcents
  · exact passage_halves hlow hhalves
  rcases Nat.lt_or_ge n (2 * decimalRange) with hnear | hwide
  · obtain ⟨m, e, r, f, hpassage⟩ := passage_near (by omega) hnear
    refine ⟨m, e, r, f, n, hpassage, ?_⟩
    rw [drift, if_neg (by omega), if_neg (by omega), if_pos hnear.le, add_zero]
  · exact passage_wide (by omega) hhigh

/-- The cents that come back are off by the drift. -/
theorem toInt_ofDecimal_toDecimal {amount : Money} (h : amount.cents.toInt.natAbs ≤ 2 ^ 53) :
    (ofDecimal amount.toDecimal).cents.toInt =
      amount.cents.toInt + amount.cents.toInt.sign * drift amount.cents.toInt.natAbs := by
  by_cases hcorner : amount.cents.toInt.natAbs ∈ corners
  · obtain ⟨hdrift, hback, -⟩ := corner_returns hcorner
    rw [hback, hdrift, mul_zero, add_zero]
  obtain ⟨hne, hmiddle, htwice, hlt⟩ := of_not_corner h hcorner
  rcases Nat.lt_or_ge decimalRange amount.cents.toInt.natAbs with hlarge | hrange
  · obtain ⟨m, e, r, f, k, hpassage, hk⟩ := exists_passage hlarge hmiddle htwice hlt
    obtain ⟨-, hdrift⟩ := drift_bounds amount.cents.toInt.natAbs
    rw [ofDecimal_of_passage hne (by omega) hpassage (by omega), hk, mul_add, Int.sign_mul_natAbs]
  · have hread := read_write_eq_ofDecimal h
    rw [(codec_readsBack hrange).read_write] at hread
    rw [← Except.ok.inj hread, drift_of_le hrange, mul_zero, add_zero]

/-- An amount comes back just when it does not drift. -/
theorem ofDecimal_toDecimal_iff {amount : Money} (h : amount.cents.toInt.natAbs ≤ 2 ^ 53) :
    ofDecimal amount.toDecimal = amount ↔ drift amount.cents.toInt.natAbs = 0 := by
  have hback := toInt_ofDecimal_toDecimal h
  constructor
  · intro heq
    rw [heq] at hback
    rcases mul_eq_zero.1 (show amount.cents.toInt.sign * drift amount.cents.toInt.natAbs = 0 by omega)
      with hsign | hdrift
    · rw [Int.sign_eq_zero_iff_zero.1 hsign]
      rfl
    · exact hdrift
  · intro hdrift
    rw [hdrift, mul_zero, add_zero] at hback
    exact eq_of_cents hback

/-! ### Different amounts -/

theorem toDecimal_ne_zero {amount : Money} (hne : amount.cents ≠ 0) :
    amount.toDecimal ≠ zero.toDecimal := by
  have hzero : zero.toDecimal = Binary64.zero false := by decide +kernel
  obtain ⟨whole, m, e, -, hdecimal, -, -, hlow, -⟩ := exists_toDecimal hne
  rw [hzero, hdecimal]
  intro heq
  unfold Binary64.zero at heq
  injection heq with hsign hm he
  rw [hm] at hlow
  norm_num at hlow

/-- Up to twice the range no two hundredths are so near that they round to one double. -/
theorem eq_of_rounds_same {n n' m : ℕ} {e : ℤ} (h : n ≤ 2 * decimalRange)
    (h' : n' ≤ 2 * decimalRange) (hcanonical : Canonical m e)
    (hrounds : RoundsTo ((n : ℚ) / 100) m e) (hrounds' : RoundsTo ((n' : ℚ) / 100) m e) :
    n = n' := by
  have hbound {n : ℕ} (hn : n ≤ 2 * decimalRange) : (n : ℚ) / 100 ≤ 2 ^ (46 : ℤ) := by
    have hcast : (n : ℚ) ≤ 7036874417766400 := by exact_mod_cast hn
    norm_num
    linarith
  obtain ⟨hlow, hhigh⟩ := abs_le.1 (hrounds.error_le hcanonical (k := 46) (by decide) (hbound h))
  obtain ⟨hlow', hhigh'⟩ :=
    abs_le.1 (hrounds'.error_le hcanonical (k := 46) (by decide) (hbound h'))
  norm_num at hlow hhigh hlow' hhigh'
  have hle : n < n' + 1 := by
    have hcast : (n : ℚ) < n' + 1 := by linarith
    exact_mod_cast hcast
  have hge : n' < n + 1 := by
    have hcast : (n' : ℚ) < n + 1 := by linarith
    exact_mod_cast hcast
  omega

theorem toDecimal_injective {amount other : Money}
    (h : amount.cents.toInt.natAbs ≤ 2 * decimalRange)
    (hother : other.cents.toInt.natAbs ≤ 2 * decimalRange)
    (heq : amount.toDecimal = other.toDecimal) : amount = other := by
  by_cases hne : amount.cents = 0
  · by_cases hne' : other.cents = 0
    · rw [eq_zero_of_cents hne, eq_zero_of_cents hne']
    · rw [eq_zero_of_cents hne] at heq
      exact absurd heq.symm (toDecimal_ne_zero hne')
  by_cases hne' : other.cents = 0
  · rw [eq_zero_of_cents hne'] at heq
    exact absurd heq (toDecimal_ne_zero hne)
  have hlt : 2 * decimalRange < 2 ^ 53 := by decide
  obtain ⟨m, e, -, hdecimal, hcanonical, hrounds, -, -⟩ :=
    exists_toDecimal_rounds hne (h.trans_lt hlt)
  obtain ⟨m', e', -, hdecimal', -, hrounds', -, -⟩ :=
    exists_toDecimal_rounds hne' (hother.trans_lt hlt)
  rw [heq, hdecimal'] at hdecimal
  injection hdecimal with hsign hm he
  subst hm he
  have hmagnitude : amount.cents.toInt.natAbs = other.cents.toInt.natAbs :=
    eq_of_rounds_same h hother hcanonical hrounds hrounds'
  have hnegative : amount.cents.toInt < 0 ↔ other.cents.toInt < 0 := by
    simpa using hsign.symm
  exact eq_of_cents (by omega)

theorem write_injective {amount other : Money}
    (h : amount.cents.toInt.natAbs ≤ 2 * decimalRange)
    (hother : other.cents.toInt.natAbs ≤ 2 * decimalRange)
    (hwrite : codec.write amount = codec.write other) : amount = other := by
  have hread := read_toDecimal (h.trans (by decide))
  have hread' := read_toDecimal (hother.trans (by decide))
  rw [hwrite, hread'] at hread
  exact toDecimal_injective h hother (Except.ok.inj hread).symm

/-- **How far the decimal form carries.** An amount of up to `2 ^ 53` cents comes back from its
    decimal form, and from the document of it alike, with its magnitude grown by the drift; so it is
    the same just when it does not drift, as up to the range of decimal forms. Up to twice that
    range different amounts have different documents. -/
theorem decimal_drift (amount : Money) (h : amount.cents.toInt.natAbs ≤ 2 ^ 53) :
    let n := amount.cents.toInt.natAbs
    let back := ofDecimal amount.toDecimal
    codec.read (codec.write amount) = .ok back ∧
      back.cents.toInt = amount.cents.toInt + amount.cents.toInt.sign * drift n ∧
      (back = amount ↔ drift n = 0) ∧
      (n ≤ decimalRange → back = amount) ∧
      ∀ other : Money, n ≤ 2 * decimalRange → other.cents.toInt.natAbs ≤ 2 * decimalRange →
        codec.write amount = codec.write other → amount = other := by
  intro n back
  refine ⟨read_write_eq_ofDecimal h, toInt_ofDecimal_toDecimal h, ofDecimal_toDecimal_iff h, ?_, ?_⟩
  · intro hrange
    exact (ofDecimal_toDecimal_iff h).2 (drift_of_le hrange)
  · intro other hamount hother hwrite
    exact write_injective hamount hother hwrite

/-- One cent beyond the range the amount still comes back, and its document is its own. -/
theorem decimal_drift_beyond :
    let amount : Money := ⟨3518437208883201⟩
    let other : Money := ⟨3518437208883202⟩
    amount.cents.toInt.natAbs ≤ 2 ^ 53 ∧ ofDecimal amount.toDecimal = amount ∧
      codec.read (codec.write amount) = .ok amount ∧ codec.write amount ≠ codec.write other := by
  intro amount other
  obtain ⟨hread, -, hback, -, hwrite⟩ := decimal_drift amount (by decide)
  have hsame : ofDecimal amount.toDecimal = amount := hback.2 (by decide)
  refine ⟨by decide, hsame, hread.trans (congrArg Except.ok hsame), ?_⟩
  intro heq
  exact absurd (hwrite other (by decide) (by decide) heq) (by decide)

/-- Two cents beyond the range an amount comes back one cent off, in both ways; and twice as far out
    two amounts have one document. -/
theorem decimal_drift_lost :
    let amount : Money := ⟨3518437208883202⟩
    let back : Money := ⟨3518437208883203⟩
    let near : Money := ⟨7036874417766401⟩
    let far : Money := ⟨7036874417766402⟩
    amount.cents.toInt.natAbs ≤ 2 ^ 53 ∧ amount ≠ back ∧ ofDecimal amount.toDecimal = back ∧
      codec.read (codec.write amount) = .ok back ∧ near.cents.toInt.natAbs ≤ 2 ^ 53 ∧
      far.cents.toInt.natAbs ≤ 2 ^ 53 ∧ near ≠ far ∧ codec.write near = codec.write far := by
  decide +kernel

end Money

end Bookshop
