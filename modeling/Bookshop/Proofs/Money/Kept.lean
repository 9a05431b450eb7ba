import Bookshop.Proofs.Money

/-!
# What an amount is kept as

Beyond the range in which the decimal form gives the cents back, an amount is still written and read,
but as another amount near to it. The greatest number of units that an amount is written as is the
limit that is put to amounts from outside, and neither the numeral nor its reading goes beyond: the
numeral of the limit is read exactly, and everything below it is rounded to at most the limit.

The main statement is `codec_readsAs_kept`: every amount reads as the one it is kept as.
-/

namespace Bookshop

namespace Money

open Binary64

/-! ### The decimal form of every amount -/

/-- From `2 ^ 53` on a whole number is rounded to a whole number again. -/
theorem exists_ofRatio_large (negative : Bool) {n : ℕ} (hlow : 2 ^ 53 ≤ n) (hhigh : n ≤ 2 ^ 63) :
    ∃ m shift : ℕ, Canonical m shift ∧ 2 ^ 53 ≤ m * 2 ^ shift ∧ m * 2 ^ shift ≤ 2 ^ 63 ∧
      ofRatio negative n 1 = .finite negative m shift := by
  have hpos : 0 < n := by omega
  have hvalue : (n : ℚ) / (1 : ℕ) = n := by simp
  have hcast : (n : ℚ) ≤ 9223372036854775808 := by exact_mod_cast hhigh
  have hcast' : (9007199254740992 : ℚ) ≤ n := by exact_mod_cast hlow
  obtain ⟨m, e, hfinite, hcanonical, hrounds⟩ :=
    exists_rounding negative hpos one_pos (by rw [hvalue]; linarith)
  rw [hvalue] at hrounds
  -- It stays between powers of two.
  have hleast : Canonical (2 ^ 52) 1 := by decide
  have hgreatest : Canonical (2 ^ 52) 11 := by decide
  have hge := hrounds.double_le hcanonical hleast (by decide) (by norm_num; linarith)
  have hle := hrounds.le_of_le hcanonical hgreatest (by linarith) (by norm_num; linarith)
  norm_num at hge hle
  obtain ⟨shift, rfl⟩ :=
    Int.eq_ofNat_of_zero_le (show 0 ≤ e by have := hcanonical.exponent_pos (by linarith); omega)
  rw [zpow_natCast] at hge hle
  refine ⟨m, shift, hcanonical, ?_, ?_, hfinite⟩
  · exact_mod_cast hge
  · exact_mod_cast hle

/-- The cents of an amount, rounded to a double, are a whole number again. -/
theorem exists_ofInt {n : ℤ} (hne : n ≠ 0) (hle : n.natAbs ≤ 2 ^ 63) :
    ∃ m e whole, 0 < whole ∧ whole ≤ 2 ^ 63 ∧ Binary64.ofInt n = .finite (decide (n < 0)) m e ∧
      (m : ℚ) * 2 ^ e = (whole : ℕ) := by
  have hpos : 0 < n.natAbs := Int.natAbs_pos.2 hne
  rcases Nat.lt_or_ge n.natAbs (2 ^ 53) with hsmall | hlarge
  · obtain ⟨m, e, -, hfinite, hvalue⟩ :=
      Binary64.ofRatio_whole (decide (n < 0)) hpos hsmall
    exact ⟨m, e, n.natAbs, hpos, hle, hfinite, hvalue⟩
  · obtain ⟨m, shift, -, hlow, hhigh, hfinite⟩ :=
      exists_ofRatio_large (decide (n < 0)) hlarge hle
    exact ⟨m, shift, m * 2 ^ shift, by omega, hhigh, hfinite, (cast_mul_two_pow m shift).symm⟩

theorem natAbs_toInt_le (word : Int64) : word.toInt.natAbs ≤ 2 ^ 63 := by
  have hlow := Int64.minValue_le_toInt word
  have hhigh := Int64.toInt_le word
  rw [Int64.toInt_minValue] at hlow
  rw [Int64.toInt_maxValue] at hhigh
  omega

/-- The decimal form of an amount is a whole number of cents, divided by one hundred and rounded, and
    at most the limit. -/
theorem exists_toDecimal {amount : Money} (hne : amount.cents ≠ 0) :
    ∃ whole m e, 0 < whole ∧
      amount.toDecimal = .finite (decide (amount.cents.toInt < 0)) m e ∧ Canonical m e ∧
      RoundsTo ((whole : ℕ) / 100) m e ∧ (2 : ℚ) ^ (-7 : ℤ) < m * 2 ^ e ∧
      (m : ℚ) * 2 ^ e ≤ decimalLimit := by
  have hnonzero : amount.cents.toInt ≠ 0 := fun h => hne (Int64.toInt_inj.1 h)
  obtain ⟨m₀, e₀, whole, hpos, hle, hstart, hvalue⟩ :=
    exists_ofInt hnonzero (natAbs_toInt_le amount.cents)
  have hquotient : amount.toDecimal = ofRatio (decide (amount.cents.toInt < 0)) whole 100 := by
    rw [toDecimal, hstart, hundred_eq, div_finite _ false (by norm_num) (n := whole) (d := 100)
      (by norm_num), Bool.bne_false]
    rw [hvalue]
    norm_num
  have hcast : (whole : ℚ) ≤ 9223372036854775808 := by exact_mod_cast hle
  obtain ⟨m, e, hfinite, hcanonical, hrounds⟩ :=
    exists_rounding (decide (amount.cents.toInt < 0)) hpos (d := 100) (by norm_num)
      (by push_cast; linarith)
  refine ⟨whole, m, e, hpos, hquotient.trans hfinite, hcanonical, hrounds, ?_, ?_⟩
  · -- The least amount is one cent.
    have hcent : ofRatio false 1 100 = .finite false 5764607523034235 (-59) := by decide +kernel
    obtain ⟨hcanonical₀, hrounds₀⟩ := (ofRatio_eq_finite_iff _ one_pos (by norm_num)).1 hcent
    have hle := hrounds₀.mono (by norm_num) hcanonical₀ hcanonical hrounds
      (by gcongr; exact_mod_cast hpos)
    refine lt_of_lt_of_le ?_ hle
    norm_num
  · -- The greatest one is the first that a word cannot hold.
    have hend : ofRatio false (2 ^ 63) 100 = .finite false 5764607523034235 4 := by decide +kernel
    obtain ⟨hcanonical₀, hrounds₀⟩ := (ofRatio_eq_finite_iff _ (by norm_num) (by norm_num)).1 hend
    have hle := hrounds.mono (by positivity) hcanonical hcanonical₀ hrounds₀ (by gcongr)
    refine hle.trans ?_
    norm_num [decimalLimit]

/-! ### The limit -/

/-- The limit is a double. -/
theorem limit_canonical : Canonical 5764607523034235 4 := by decide

theorem limit_value : ((5764607523034235 : ℕ) : ℚ) * 2 ^ (4 : ℤ) = decimalLimit := by
  norm_num [decimalLimit]

/-- What is not above the limit is not rounded beyond it. -/
theorem le_limit {q : ℚ} {r : ℕ} {f : ℤ} (h : RoundsTo q r f) (hcanonical : Canonical r f)
    (hq : 0 < q) (hle : q ≤ decimalLimit) : (r : ℚ) * 2 ^ f ≤ decimalLimit := by
  rw [← limit_value] at hle ⊢
  exact h.le_of_le hcanonical limit_canonical hq hle

/-- A decimal of a double up to the limit is at most half a unit above the limit. -/
theorem decimal_le {q : ℚ} {m : ℕ} {e : ℤ} (h : RoundsTo q m e) (hcanonical : Canonical m e)
    (hle : (m : ℚ) * 2 ^ e ≤ decimalLimit) : q ≤ decimalLimit + 8 := by
  have hexponent : e ≤ 4 := by
    by_contra hgt
    have hleast : e ≠ leastExponent := by
      unfold leastExponent
      omega
    have hnormal : (2 : ℚ) ^ 52 ≤ m := by
      exact_mod_cast hcanonical.normal.resolve_right hleast
    have hunit : (2 : ℚ) ^ (5 : ℤ) ≤ 2 ^ e := two_zpow_le (by omega)
    norm_num [decimalLimit] at hle hunit
    nlinarith
  have hunit : (2 : ℚ) ^ e ≤ 2 ^ (4 : ℤ) := two_zpow_le hexponent
  norm_num at hunit
  linarith [h.high]

/-! ### The shortest decimal of every amount -/

/-- The shortest decimal has at most two places, and none when the amount is not small. -/
theorem exists_shortest {whole m : ℕ} {e : ℤ} (hm : 0 < m) (hcanonical : Canonical m e)
    (hwhole : RoundsTo ((whole : ℚ) / 100) m e) (hlow : (2 : ℚ) ^ (-7 : ℤ) < m * 2 ^ e)
    (hhigh : (m : ℚ) * 2 ^ e ≤ decimalLimit) :
    ∃ c k, shortest m e = (c, k) ∧ -2 ≤ k ∧ k ≤ 18 ∧ RoundsTo ((c : ℚ) * 10 ^ k) m e ∧
      (8 * ((m : ℚ) * 2 ^ e) ≤ decimalLimit ∨ 0 ≤ k) := by
  by_cases hsmall : 8 * ((m : ℚ) * 2 ^ e) ≤ decimalLimit
  · -- The cents are a decimal of the double.
    have hsize : (m : ℚ) * 2 ^ e < 2 ^ (54 : ℤ) := by
      norm_num [decimalLimit] at hsmall ⊢
      linarith
    obtain ⟨hexponent, hexponent'⟩ := decimalExponent_bounds hm hlow hsize
    have hcents : RoundsTo ((whole : ℚ) * 10 ^ (-2 : ℤ)) m e := by
      have heq : (whole : ℚ) * 10 ^ (-2 : ℤ) = whole / 100 := by
        norm_num
        ring
      rw [heq]
      exact hwhole
    obtain ⟨c, k, hshortest, hk, hk', hdecimal⟩ :=
      shortest_spec hm hcents (by omega) (by omega)
    exact ⟨c, k, hshortest, hk, by omega, hdecimal, .inl hsmall⟩
  · -- The double is a whole number, so it is a decimal of itself.
    have hlarge : (2 : ℚ) ^ (53 : ℤ) < m * 2 ^ e := by
      norm_num [decimalLimit] at hsmall ⊢
      linarith
    have hsize : (m : ℚ) * 2 ^ e < 2 ^ (57 : ℤ) := by
      norm_num [decimalLimit] at hhigh ⊢
      linarith
    have hexponent : 0 ≤ e := by
      by_contra hneg
      have hlt : (m : ℚ) < 2 ^ 53 := by exact_mod_cast hcanonical.lt
      have hunit : (2 : ℚ) ^ e ≤ 1 := zpow_le_one_of_nonpos₀ (by norm_num) (by omega)
      have hproduct := mul_le_mul_of_nonneg_left hunit (Nat.cast_nonneg (α := ℚ) m)
      rw [zpow_ofNat] at hlarge
      linarith
    obtain ⟨hstart, hstart'⟩ := decimalExponent_bounds hm hlarge hsize
    obtain ⟨shift, rfl⟩ := Int.eq_ofNat_of_zero_le hexponent
    have hself : RoundsTo (((m * 2 ^ shift : ℕ) : ℚ) * 10 ^ (0 : ℤ)) m shift := by
      have heq : ((m * 2 ^ shift : ℕ) : ℚ) * 10 ^ (0 : ℤ) = m * 2 ^ (shift : ℤ) := by simp
      rw [heq]
      exact Canonical.roundsTo_self
    obtain ⟨c, k, hshortest, hk, hk', hdecimal⟩ :=
      shortest_spec hm hself (by omega) (by omega)
    exact ⟨c, k, hshortest, by omega, by omega, hdecimal, .inr hk⟩

/-! ### Reading it -/

section Reading

variable {c s m m' r : ℕ} {k p e e' f : ℤ}

/-- A small amount is read as at most eight times as much, which is not beyond the limit. -/
theorem reread_small (h : Numeral.Rerounded s p m' e' r f) (hvalue : (s : ℚ) * 10 ^ p = c * 10 ^ k)
    (hm : 0 < m) (hrounds : RoundsTo ((c : ℚ) * 10 ^ k) m e)
    (hsmall : 8 * ((m : ℚ) * 2 ^ e) ≤ decimalLimit) : (r : ℚ) * 2 ^ f ≤ decimalLimit := by
  have hmcast : (1 : ℚ) ≤ m := by exact_mod_cast hm
  have hpos := two_zpow_pos e
  have htwice : (c : ℚ) * 10 ^ k ≤ 2 * (m * 2 ^ e) := by
    have hhigh := hrounds.high
    nlinarith
  have hread := h.le
  rw [hvalue] at hread
  linarith

/-- A multiple of ten that is half a unit above the limit at most is not above the limit. -/
theorem tenfold_le {w : ℕ} (h : (10 * w : ℚ) ≤ decimalLimit + 8) :
    (w : ℚ) ≤ 9223372036854776 := by
  have hnat : 10 * w ≤ decimalLimit + 8 := by exact_mod_cast h
  have hw : w ≤ 9223372036854776 := by
    unfold decimalLimit at hnat
    omega
  exact_mod_cast hw

/-- The digits of a large amount with their exponent are read as at most the limit. -/
theorem reread_whole (h : Numeral.Rerounded c k m' e' r f) (hc : 0 < c) (hk : 0 ≤ k)
    (hcanonical : Canonical m e) (hrounds : RoundsTo ((c : ℚ) * 10 ^ k) m e)
    (hlimit : (m : ℚ) * 2 ^ e ≤ decimalLimit) : (r : ℚ) * 2 ^ f ≤ decimalLimit := by
  have hccast : (0 : ℚ) < c := by exact_mod_cast hc
  have hdecimal := decimal_le hrounds hcanonical hlimit
  obtain ⟨places, rfl⟩ := Int.eq_ofNat_of_zero_le hk
  rw [zpow_natCast] at hdecimal
  have hstart : (m' : ℚ) * 2 ^ e' * 10 ^ (places : ℤ) ≤ decimalLimit := by
    rw [zpow_natCast]
    match places with
    | 0 =>
      -- The significand is the decimal itself, so it is read as the double.
      have hwhole : RoundsTo (c : ℚ) m e := by simpa using hrounds
      obtain ⟨rfl, rfl⟩ := h.start.eq hccast h.startCanonical hcanonical hwhole
      simpa using hlimit
    | 1 =>
      have hc' : (c : ℚ) ≤ 9223372036854776 := tenfold_le (by linarith)
      have hten : Canonical 4611686018427388 1 := by decide
      have hle := h.start.le_of_le h.startCanonical hten hccast (by norm_num at hc' ⊢; linarith)
      norm_num at hle
      norm_num [decimalLimit]
      linarith
    | places + 2 =>
      -- So few digits are held exactly.
      have hw : ((c * 10 ^ (places + 1) : ℕ) : ℚ) ≤ 9223372036854776 := by
        apply tenfold_le
        push_cast
        rw [pow_succ] at hdecimal
        linarith
      have hnat : c * 10 ^ (places + 1) ≤ 9223372036854776 := by exact_mod_cast hw
      have hsmall : c < 2 ^ 53 := by
        have hplaces : 10 ≤ 10 ^ (places + 1) := Nat.le_self_pow (by omega) 10
        nlinarith
      obtain ⟨m₁, e₁, -, hcanonical₁, hvalue⟩ :=
        exists_canonical (j := 0) hc hsmall (by norm_num) (by norm_num)
      rw [zpow_zero, mul_one] at hvalue
      have hle := h.start.le_of_le h.startCanonical hcanonical₁ hccast hvalue.ge
      rw [hvalue] at hle
      calc (m' : ℚ) * 2 ^ e' * 10 ^ (places + 2) ≤ c * 10 ^ (places + 2) := by gcongr
        _ = 10 * (c * 10 ^ (places + 1) : ℕ) := by
            push_cast
            ring
        _ ≤ 10 * 9223372036854776 := by gcongr
        _ = decimalLimit := by norm_num [decimalLimit]
  have hstartPos : 0 < m' := h.start.pos_of_one_le h.startCanonical (by exact_mod_cast hc)
  exact le_limit h.rounds h.canonical (by positivity) hstart

/-- The same digits with zeros up to the point, and one after it. The significand is ten times the
    decimal; it may be rounded beyond ten times the limit, but a tenth of that is rounded back. -/
theorem reread_shifted (h : Numeral.Rerounded s (-1) m' e' r f) (hs : 0 < s)
    (hle : (s : ℚ) * 10 ^ (-1 : ℤ) ≤ decimalLimit + 8) : (r : ℚ) * 2 ^ f ≤ decimalLimit := by
  have hscast : (1 : ℚ) ≤ s := by exact_mod_cast hs
  have hstartPos : 0 < m' := h.start.pos_of_one_le h.startCanonical hscast
  have hten : ofRatio false 922337203685477680 1 = .finite false 7205759403792794 7 := by
    decide +kernel
  obtain ⟨htenCanonical, htenRounds⟩ := (ofRatio_eq_finite_iff _ (by norm_num) one_pos).1 hten
  have hsignificand : (s : ℚ) ≤ 922337203685477680 := by
    norm_num [decimalLimit] at hle
    linarith
  have hstart := h.start.mono (by linarith) h.startCanonical htenCanonical htenRounds (by
    push_cast
    linarith)
  have htenth : ofRatio false 922337203685477632 10 = .finite false 5764607523034235 4 := by
    decide +kernel
  obtain ⟨htenthCanonical, htenthRounds⟩ :=
    (ofRatio_eq_finite_iff _ (by norm_num) (by norm_num)).1 htenth
  have hread := h.rounds.mono (by positivity) h.canonical htenthCanonical htenthRounds (by
    norm_num at hstart ⊢
    linarith)
  rw [← limit_value]
  exact hread

end Reading

/-- The decimal form of every amount is written as a numeral, which is read as a double of its sign
    up to the limit. -/
theorem exists_reading (negative : Bool) {whole m : ℕ} {e : ℤ} (hcanonical : Canonical m e)
    (hwhole : RoundsTo ((whole : ℚ) / 100) m e) (hlow : (2 : ℚ) ^ (-7 : ℤ) < m * 2 ^ e)
    (hhigh : (m : ℚ) * 2 ^ e ≤ decimalLimit) :
    ∃ numeral r f, Numeral.ofBinary64? (.finite negative m e) = some numeral ∧
      numeral.WellFormed ∧ numeral.toBinary64? = some (.finite negative r f) ∧
      (r : ℚ) * 2 ^ f ≤ decimalLimit := by
  have hm : 0 < m := by
    rcases Nat.eq_zero_or_pos m with rfl | hm
    · norm_num at hlow
    · exact hm
  obtain ⟨c, k, hshortest, hk, hk', hrounds, hsize⟩ :=
    exists_shortest hm hcanonical hwhole hlow hhigh
  have hdecimal := decimal_le hrounds hcanonical hhigh
  have hc : 0 < c := Numeral.pos_of_decimal_pos (hrounds.pos hm)
  have hfit : c * 10 ^ (k + 1).toNat ≤ Numeral.greatestSignificand := by
    have hshifted := Numeral.shifted_le (c := c) hk
    have hcast : ((c * 10 ^ (k + 1).toNat : ℕ) : ℚ) ≤ (Numeral.greatestSignificand : ℕ) := by
      refine hshifted.trans ?_
      norm_num [decimalLimit, Numeral.greatestSignificand] at hdecimal ⊢
      linarith
    exact_mod_cast hcast
  have hspelled : Numeral.ofBinary64? (.finite negative m e) =
      some (Numeral.place negative (digits c) ((digits c).length + k)) := by
    simp only [Numeral.ofBinary64?, if_neg hm.ne', hshortest]
  have hwellFormed := Numeral.wellFormed_place negative hc ((digits c).length + k)
  rcases Numeral.parts_place negative hfit with hparts | ⟨hwholeDigits, hparts⟩
  · have hcfit := (Nat.le_mul_of_pos_right c (Nat.pow_pos (by decide))).trans hfit
    obtain ⟨m', e', r, f, hread, hrerounded⟩ :=
      Numeral.exists_rerounded hparts hc hcfit (by omega) (by omega)
    rw [Numeral.place_negative] at hread
    refine ⟨_, r, f, hspelled, hwellFormed, hread, ?_⟩
    rcases hsize with hsmall | hk
    · exact reread_small hrerounded rfl hm hrounds hsmall
    · exact reread_whole hrerounded hc hk hcanonical hrounds hhigh
  · have hsucc : (k + 1).toNat = k.toNat + 1 := by omega
    rw [hsucc] at hfit
    have hvalue : ((c * 10 ^ (k.toNat + 1) : ℕ) : ℚ) * 10 ^ (-1 : ℤ) = c * 10 ^ k := by
      obtain ⟨places, rfl⟩ := Int.eq_ofNat_of_zero_le hwholeDigits
      rw [Int.toNat_natCast, zpow_natCast, pow_succ, zpow_neg_one]
      push_cast
      field_simp
    obtain ⟨m', e', r, f, hread, hrerounded⟩ :=
      Numeral.exists_rerounded hparts (by positivity) hfit (by norm_num) (by norm_num)
    rw [Numeral.place_negative] at hread
    exact ⟨_, r, f, hspelled, hwellFormed, hread,
      reread_shifted hrerounded (by positivity) (hvalue.trans_le hdecimal)⟩

/-! ### What an amount is kept as -/

/-- The amount that an amount is when it has been written and read. -/
def kept (amount : Money) : Money :=
  match codec.decode (codec.encode amount) with
  | .ok result => result
  | .error _ => amount

theorem kept_of_readsAs {amount result : Money} (h : codec.ReadsAs amount result) :
    amount.kept = result := by
  simp only [kept, h.decode_encode]

/-- **Every amount can be written and read.** Amounts in the range of decimal forms are the same
    afterwards. -/
theorem codec_readsAs_kept (amount : Money) :
    codec.ReadsAs amount amount.kept ∧ (amount.InRange → amount.kept = amount) := by
  refine ⟨?_, fun hrange => kept_of_readsAs (codec_readsBack hrange).readsAs⟩
  by_cases hne : amount.cents = 0
  · obtain rfl : amount = zero := eq_zero_of_cents hne
    rw [kept_of_readsAs codec_readsBack_zero.readsAs]
    exact codec_readsBack_zero.readsAs
  · obtain ⟨whole, m, e, -, hdecimal, hcanonical, hrounds, hlow, hhigh⟩ := exists_toDecimal hne
    obtain ⟨numeral, r, f, hspelled, hwellFormed, hread, hlimit⟩ :=
      exists_reading (decide (amount.cents.toInt < 0)) hcanonical hrounds hlow hhigh
    have hunits : ofUnits (.finite (decide (amount.cents.toInt < 0)) r f) =
        .ok (ofDecimal (.finite (decide (amount.cents.toInt < 0)) r f)) := by
      rw [ofUnits, magnitudeExceeds_eq_false hlimit]
      rfl
    have hcodec : codec.ReadsAs amount (ofDecimal (.finite (decide (amount.cents.toInt < 0)) r f)) := by
      refine Codec.convert_readsAs ?_ hunits
      rw [hdecimal]
      exact Codec.double_readsAs hspelled hwellFormed hread
    rw [kept_of_readsAs hcodec]
    exact hcodec

end Money

end Bookshop
