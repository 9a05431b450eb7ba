import Bookshop.Json.Numeral
import Bookshop.Proofs.Binary64.Arithmetic
import Bookshop.Proofs.Binary64.Shortest
import Bookshop.Proofs.Json.Reading

/-!
# Numerals of doubles

The digits of a numeral are gathered into a significand and a power of ten. When both are held
exactly, the double that the numeral is read as is the rounded value of the numeral. Placing the
decimal point among digits, or adding zeros to them, changes the significand and the power of ten
but not the value.
-/

namespace Bookshop

namespace Numeral

open Binary64

/-! ### Gathering digits -/

theorem le_appendDigits (n : Nat) (ds : List Nat) : n ≤ appendDigits n ds := by
  rw [appendDigits_eq]
  exact Nat.le_add_right_of_le (Nat.le_mul_of_pos_right n (Nat.pow_pos (by decide)))

theorem gather_eq {n : Nat} {ds : List Nat} (h : appendDigits n ds ≤ greatestSignificand) :
    gather n ds = (appendDigits n ds, []) := by
  induction ds generalizing n with
  | nil => rfl
  | cons d ds ih =>
    have hstep : appendDigits n (d :: ds) = appendDigits (n * 10 + d) ds := by
      rw [Nat.mul_comm]
      rfl
    rw [hstep] at h ⊢
    rw [gather, if_pos ((le_appendDigits _ ds).trans h), ih h]

/-- The significand of a numeral whose digits fit is made of all of them, and the power of ten
    counts those of the fraction. -/
theorem parts_eq {n : Numeral} (h : ofDigits (n.whole ++ n.fraction) ≤ greatestSignificand) :
    n.parts = (ofDigits (n.whole ++ n.fraction), n.exponent.getD 0 - n.fraction.length) := by
  rw [ofDigits, appendDigits_append] at h ⊢
  simp only [parts, gather_eq ((le_appendDigits _ _).trans h), gather_eq h, List.length_nil]
  congr 1
  omega

/-! ### Placing the decimal point -/

theorem ofDigits_append_zero_digits (c n : Nat) :
    ofDigits (digits c ++ List.replicate n 0 ++ [0]) = c * 10 ^ (n + 1) := by
  have hzeros : List.replicate n 0 ++ [0] = List.replicate (n + 1) 0 := by
    rw [List.replicate_succ']
  rw [List.append_assoc, hzeros, ofDigits_append_zeros, ofDigits_digits]

/-- The value of a placed numeral is that of its digits, shifted: either they are the significand,
    or zeros up to the point and one after it follow them. -/
theorem parts_place (negative : Bool) {c : Nat} {k : Int}
    (hfit : c * 10 ^ (k + 1).toNat ≤ greatestSignificand) :
    (place negative (digits c) ((digits c).length + k)).parts = (c, k) ∨
      0 ≤ k ∧ (place negative (digits c) ((digits c).length + k)).parts =
        (c * 10 ^ (k.toNat + 1), -1) := by
  have hc : c ≤ greatestSignificand :=
    (Nat.le_mul_of_pos_right c (Nat.pow_pos (by decide))).trans hfit
  unfold place
  simp only
  split
  · next hpoint =>
    -- The point is behind all digits.
    have hk : 0 ≤ k := by omega
    have hshift : ((digits c).length : Int) + k - (digits c).length = k := by omega
    have hsucc : (k + 1).toNat = k.toNat + 1 := by omega
    rw [hsucc] at hfit
    refine .inr ⟨hk, ?_⟩
    rw [hshift, parts_eq]
    · simp only [ofDigits_append_zero_digits]
      rfl
    · simp only [ofDigits_append_zero_digits]
      exact hfit
  split
  · -- The point is among the digits.
    left
    rw [parts_eq]
    · simp only [List.take_append_drop, ofDigits_digits, List.length_drop, Option.getD_none]
      congr 1
      omega
    · simp only [List.take_append_drop, ofDigits_digits]
      exact hc
  split
  · -- The point is before the digits.
    have hzeros (n : Nat) : ofDigits ([0] ++ (List.replicate n 0 ++ digits c)) = c := by
      rw [← List.append_assoc, ← List.replicate_one, List.replicate_append_replicate,
        ofDigits_zeros_append, ofDigits_digits]
    left
    rw [parts_eq]
    · simp only [hzeros, List.length_append, List.length_replicate, Option.getD_none]
      congr 1
      push_cast
      omega
    · simp only [hzeros]
      exact hc
  · -- The digits stand with an exponent.
    have hne : 0 < (digits c).length := List.length_pos_iff.2 (digits_ne_nil c)
    left
    rw [parts_eq]
    · simp only [List.take_append_drop, ofDigits_digits, List.length_drop, Option.getD_some]
      congr 1
      omega
    · simp only [List.take_append_drop, ofDigits_digits]
      exact hc

@[simp] theorem place_negative (negative : Bool) (ds : List Nat) (point : Int) :
    (place negative ds point).negative = negative := by
  unfold place
  simp only
  split
  · rfl
  split
  · rfl
  split
  · rfl
  · rfl

theorem wellFormed_place (negative : Bool) {c : Nat} (hc : 0 < c) (point : Int) :
    (place negative (digits c) point).WellFormed := by
  have hdigits : ∀ d ∈ digits c, d < 10 := by
    intro d hd
    exact lt_of_mem_digits hd
  have hzeros {n : Nat} : ∀ d ∈ List.replicate n 0, d < 10 := by
    intro d hd
    rw [List.eq_of_mem_replicate hd]
    decide
  obtain ⟨d, ds, hspelled, hd⟩ : ∃ d ds, digits c = d :: ds ∧ d ≠ 0 := by
    rcases digits_leading c with hzero | hleading
    · have hvalue := ofDigits_digits c
      rw [hzero] at hvalue
      exact absurd hvalue.symm hc.ne'
    · exact hleading
  unfold place
  simp only
  split
  · refine ⟨?_, by simp, .inr ⟨d, _, by rw [hspelled, List.cons_append], hd⟩⟩
    intro x hx
    rcases List.mem_append.1 hx with hx | hx
    · exact hdigits x hx
    · exact hzeros x hx
  split
  · next hpoint =>
    refine ⟨fun x hx => hdigits x (List.mem_of_mem_take hx),
      fun x hx => hdigits x (List.mem_of_mem_drop hx), .inr ⟨d, ds.take (point.toNat - 1), ?_, hd⟩⟩
    have hsucc : point.toNat = point.toNat - 1 + 1 := by omega
    simp only [hspelled]
    rw [hsucc, List.take_succ_cons]
    rfl
  split
  · refine ⟨by simp, ?_, .inl rfl⟩
    intro x hx
    rcases List.mem_append.1 hx with hx | hx
    · exact hzeros x hx
    · exact hdigits x hx
  · refine ⟨fun x hx => hdigits x (List.mem_of_mem_take hx),
      fun x hx => hdigits x (List.mem_of_mem_drop hx), .inr ⟨d, [], ?_, hd⟩⟩
    simp only [hspelled]
    rfl

/-! ### Reading exact parts -/

/-- The powers of ten up to the 22nd are held exactly: their odd parts have at most 53 bits. -/
theorem powerOfTen_exact {n : Nat} (hn : n ≤ 22) :
    ∃ m e, 0 < m ∧ powerOfTen n = .finite false m e ∧ (m : ℚ) * 2 ^ e = 10 ^ n := by
  have hodd : 5 ^ n < 2 ^ 53 := (Nat.pow_le_pow_right (by decide) hn).trans_lt (by decide)
  have hvalue : ((10 ^ n : ℕ) : ℚ) / (1 : ℕ) = (5 ^ n : ℕ) * 2 ^ (n : ℤ) := by
    push_cast
    rw [div_one, zpow_natCast, ← mul_pow]
    norm_num
  obtain ⟨m, e, hm, hfinite, heq⟩ := Binary64.ofRatio_exact false one_pos (by positivity) hodd
    (by omega) (by omega) hvalue
  refine ⟨m, e, hm, hfinite, ?_⟩
  rw [heq]
  simp

/-- A double times a power of ten that is held exactly is the rounded product. -/
theorem scaleUp?_finite {m : ℕ} {e : ℤ} {places : ℕ} (hplaces : places ≤ 22) {num den : ℕ}
    (hnum : 0 < num) (hden : 0 < den) (hvalue : (num : ℚ) / den = m * 2 ^ e * 10 ^ places)
    (hsmall : (num : ℚ) / den < 2 ^ (1023 : ℤ)) :
    scaleUp? (.finite false m e) places = some (Binary64.ofRatio false num den) := by
  obtain ⟨t, f, -, hten, htenValue⟩ := powerOfTen_exact hplaces
  have hproduct : (Binary64.finite false m e).mul (powerOfTen places) =
      Binary64.ofRatio false num den := by
    rw [hten]
    apply Binary64.mul_finite false false hden
    rw [hvalue, htenValue]
  obtain ⟨r, g, hfinite⟩ := Binary64.exists_ofRatio_finite false hnum hden hsmall
  have hisFinite : (Binary64.ofRatio false num den).isFinite = true := by
    rw [hfinite]
    rfl
  rw [scaleUp?, if_pos (by omega)]
  simp only [hproduct, hisFinite, if_true]

/-- A double divided by a power of ten that is held exactly is the rounded quotient. -/
theorem scaleDown_finite {m : ℕ} {e : ℤ} {places : ℕ} (hplaces : places ≤ 22) {num den : ℕ}
    (hden : 0 < den) (hvalue : (num : ℚ) / den = m * 2 ^ e / 10 ^ places) :
    scaleDown (.finite false m e) places = Binary64.ofRatio false num den := by
  obtain ⟨t, f, ht, hten, htenValue⟩ := powerOfTen_exact hplaces
  rw [scaleDown, if_pos (by omega), hten]
  apply Binary64.div_finite false false ht hden
  rw [hvalue, htenValue]

/-- **A numeral is rounded twice.** The significand is rounded to a double, and that times the power
    of ten is rounded again. -/
theorem toBinary64?_eq_of_start {n : Numeral} {significand : Nat} {power : Int}
    (hparts : n.parts = (significand, power)) {m : ℕ} {e : ℤ} (hm : 0 < m)
    (hstart : Binary64.ofRatio false significand 1 = .finite false m e)
    (hsize : (m : ℚ) * 2 ^ e ≤ 2 ^ 65) (hlow : -22 ≤ power) (hhigh : power ≤ 22) {num den : Nat}
    (hden : 0 < den) (hvalue : (num : ℚ) / den = m * 2 ^ e * 10 ^ power) :
    n.toBinary64? = some (Binary64.ofRatio n.negative num den) := by
  have hmagnitude :
      (if 0 ≤ power then scaleUp? (Binary64.ofRatio false significand 1) power.toNat
        else some (scaleDown (Binary64.ofRatio false significand 1) (-power).toNat)) =
        some (Binary64.ofRatio false num den) := by
    rw [hstart]
    split
    · next hpower =>
      obtain ⟨places, rfl⟩ := Int.eq_ofNat_of_zero_le hpower
      rw [zpow_natCast] at hvalue
      have hnum : 0 < num := by
        have hquotient : (0 : ℚ) < num / den := by
          have hcast : (0 : ℚ) < m := by exact_mod_cast hm
          rw [hvalue]
          exact mul_pos (mul_pos hcast (two_zpow_pos e)) (by positivity)
        exact_mod_cast (div_pos_iff_of_pos_right (by exact_mod_cast hden)).1 hquotient
      have hsmall : (num : ℚ) / den < 2 ^ (1023 : ℤ) := by
        have hten : (10 : ℚ) ^ places ≤ 10 ^ 22 := pow_le_pow_right₀ (by norm_num) (by omega)
        rw [hvalue]
        calc (m : ℚ) * 2 ^ e * 10 ^ places ≤ 2 ^ 65 * 10 ^ 22 := by gcongr
          _ < 2 ^ (140 : ℤ) := by norm_num
          _ ≤ 2 ^ (1023 : ℤ) := Binary64.two_zpow_le (by norm_num)
      rw [Int.toNat_natCast]
      exact scaleUp?_finite (by omega) hnum hden hvalue hsmall
    · next hpower =>
      obtain ⟨places, rfl⟩ : ∃ places : Nat, power = -places := ⟨power.natAbs, by omega⟩
      have hplaces : (-(-(places : Int))).toNat = places := by omega
      rw [hplaces]
      congr 1
      apply scaleDown_finite (by omega) hden
      rw [hvalue, zpow_neg, zpow_natCast, div_eq_mul_inv]
  unfold toBinary64?
  rw [hparts]
  simp only [hmagnitude, Option.map_some]
  cases n.negative with
  | false => rfl
  | true => simp only [if_true, Binary64.neg_ofRatio, Bool.not_false]

/-- **Exact parts are read exactly.** A numeral whose significand has at most 53 bits and whose
    power of ten is within 22 places is read as the rounded value of the numeral. -/
theorem toBinary64?_eq_ofRatio {n : Numeral} {significand : Nat} {power : Int}
    (hparts : n.parts = (significand, power)) (hpos : 0 < significand) (hlt : significand < 2 ^ 53)
    (hlow : -22 ≤ power) (hhigh : power ≤ 22) {num den : Nat} (hden : 0 < den)
    (hvalue : (num : ℚ) / den = significand * 10 ^ power) :
    n.toBinary64? = some (Binary64.ofRatio n.negative num den) := by
  obtain ⟨m, e, hm, hstart, hstartValue⟩ := Binary64.ofRatio_whole false hpos hlt
  apply toBinary64?_eq_of_start hparts hm hstart _ hlow hhigh hden
  · rw [hvalue, hstartValue]
  · have hcast : (significand : ℚ) ≤ 2 ^ 53 := by exact_mod_cast hlt.le
    rw [hstartValue]
    linarith

theorem pos_of_decimal_pos {c : ℕ} {k : ℤ} (h : (0 : ℚ) < c * 10 ^ k) : 0 < c := by
  have hcast : (0 : ℚ) < c := (mul_pos_iff_of_pos_right (by positivity)).1 h
  exact_mod_cast hcast

theorem decimal_div (c : ℕ) (k : ℤ) :
    ((c * 10 ^ k.toNat : ℕ) : ℚ) / (10 ^ (-k).toNat : ℕ) = c * 10 ^ k := by
  push_cast
  rw [mul_div_assoc, pow_toNat_div]

/-- A double whose shortest decimal has exact parts is read from its numeral. -/
theorem toBinary64?_ofBinary64? (negative : Bool) {m : ℕ} {e : ℤ} (hm : 0 < m)
    (hcanonical : Canonical m e) {c : ℕ} {k : ℤ} (hshortest : shortest m e = (c, k))
    (hrounds : RoundsTo ((c : ℚ) * 10 ^ k) m e) (hlow : -22 ≤ k) (hhigh : k ≤ 22)
    (hlt : c * 10 ^ (k + 1).toNat < 2 ^ 53) :
    ∃ numeral, ofBinary64? (.finite negative m e) = some numeral ∧ numeral.WellFormed ∧
      numeral.toBinary64? = some (.finite negative m e) := by
  have hc : 0 < c := pos_of_decimal_pos (hrounds.pos hm)
  have hclt : c < 2 ^ 53 := (Nat.le_mul_of_pos_right c (Nat.pow_pos (by decide))).trans_lt hlt
  have hround : ofRatio negative (c * 10 ^ k.toNat) (10 ^ (-k).toNat) = .finite negative m e := by
    rw [ofRatio_eq_finite_iff negative (by positivity) (by positivity), decimal_div]
    exact ⟨hcanonical, hrounds⟩
  refine ⟨place negative (digits c) ((digits c).length + k), ?_, wellFormed_place negative hc _, ?_⟩
  · simp only [ofBinary64?, if_neg hm.ne', hshortest]
  · -- Either way of placing the point leaves the value as it is.
    have hfit : c * 10 ^ (k + 1).toNat ≤ greatestSignificand := by
      rw [greatestSignificand, Nat.pow_eq]
      omega
    rcases parts_place negative hfit with hparts | ⟨hk, hparts⟩
    · rw [toBinary64?_eq_ofRatio hparts hc hclt hlow hhigh (by positivity) (decimal_div c k),
        place_negative, hround]
    · obtain ⟨places, rfl⟩ := Int.eq_ofNat_of_zero_le hk
      have hvalue : ((c * 10 ^ (places : ℤ).toNat : ℕ) : ℚ) / (10 ^ (-(places : ℤ)).toNat : ℕ) =
          (c * 10 ^ ((places : ℤ).toNat + 1) : ℕ) * 10 ^ (-1 : ℤ) := by
        rw [decimal_div, Int.toNat_natCast, zpow_natCast, pow_succ]
        push_cast
        rw [zpow_neg_one]
        field_simp
      have hsucc : ((places : ℤ) + 1).toNat = places + 1 := by omega
      rw [hsucc] at hlt
      rw [toBinary64?_eq_ofRatio hparts (by positivity) (by rw [Int.toNat_natCast]; exact hlt)
        (by norm_num) (by norm_num) (by positivity) hvalue, place_negative, hround]

/-! ### Reading rounded parts -/

theorem shifted_le {c : ℕ} {k : ℤ} (hk : -2 ≤ k) :
    ((c * 10 ^ (k + 1).toNat : ℕ) : ℚ) ≤ 100 * (c * 10 ^ k) := by
  rcases hk.eq_or_lt with rfl | hlt
  · have hshift : (-2 + 1 : ℤ).toNat = 0 := rfl
    rw [hshift]
    norm_num
    linarith
  · obtain ⟨places, hplaces⟩ := Int.eq_ofNat_of_zero_le (show 0 ≤ k + 1 by omega)
    obtain rfl : k = places - 1 := by omega
    have hnonneg : (0 : ℚ) ≤ c * 10 ^ places := by positivity
    rw [hplaces, zpow_sub₀ (by norm_num), zpow_natCast, zpow_one, Int.toNat_natCast]
    push_cast
    linarith

/-- What is read as `r * 2 ^ f` is rounded twice: the significand `s` to `m * 2 ^ e`, and that times
    the power of ten. -/
structure Rerounded (s : ℕ) (p : ℤ) (m : ℕ) (e : ℤ) (r : ℕ) (f : ℤ) : Prop where
  startCanonical : Canonical m e
  start : RoundsTo s m e
  canonical : Canonical r f
  rounds : RoundsTo (m * 2 ^ e * 10 ^ p) r f

/-- Each of the two roundings doubles the value at most. -/
theorem Rerounded.le {s m r : ℕ} {p e f : ℤ} (h : Rerounded s p m e r f) :
    (r : ℚ) * 2 ^ f ≤ 4 * (s * 10 ^ p) := by
  have hten : (0 : ℚ) < 10 ^ p := by positivity
  have hfirst := h.start.le_double (Nat.cast_nonneg s)
  have hsecond := h.rounds.le_double
    (mul_nonneg (mul_nonneg m.cast_nonneg (two_zpow_pos e).le) hten.le)
  nlinarith

/-- A numeral whose digits fit into a significand is read. -/
theorem exists_rerounded {n : Numeral} {s : ℕ} {p : ℤ} (hparts : n.parts = (s, p)) (hs : 0 < s)
    (hfit : s ≤ greatestSignificand) (hlow : -22 ≤ p) (hhigh : p ≤ 22) :
    ∃ m e r f, n.toBinary64? = some (.finite n.negative r f) ∧ Rerounded s p m e r f := by
  have hscast : (s : ℚ) ≤ 2 ^ 64 := by
    have hnat : s ≤ 2 ^ 64 := hfit.trans (by decide)
    exact_mod_cast hnat
  have hvalue : (s : ℚ) / (1 : ℕ) = s := by simp
  obtain ⟨m, e, hstart, hcanonical, hrounds⟩ :=
    exists_rounding false hs one_pos (by rw [hvalue]; linarith)
  rw [hvalue] at hrounds
  have hsize : (m : ℚ) * 2 ^ e ≤ 2 ^ 65 := by
    have hdouble := hrounds.le_double (Nat.cast_nonneg s)
    linarith
  have hm : 0 < m := hrounds.pos_of_one_le hcanonical (by exact_mod_cast hs)
  have hproduct : ((m * 2 ^ e.toNat * 10 ^ p.toNat : ℕ) : ℚ) /
      (2 ^ (-e).toNat * 10 ^ (-p).toNat : ℕ) = m * 2 ^ e * 10 ^ p := by
    push_cast
    rw [mul_div_mul_comm, mul_div_assoc, pow_toNat_div, pow_toNat_div]
  have hread := toBinary64?_eq_of_start hparts hm hstart hsize hlow hhigh (by positivity) hproduct
  have hten : (10 : ℚ) ^ p ≤ 10 ^ (22 : ℤ) := zpow_le_zpow_right₀ (by norm_num) hhigh
  have hbound : (m : ℚ) * 2 ^ e * 10 ^ p ≤ 2 ^ 140 := by
    calc (m : ℚ) * 2 ^ e * 10 ^ p ≤ 2 ^ 65 * 10 ^ (22 : ℤ) := by gcongr
      _ ≤ 2 ^ 140 := by norm_num
  rw [← hproduct] at hbound
  obtain ⟨r, f, hfinite, hcanonical', hrounds'⟩ :=
    exists_rounding n.negative (by positivity) (by positivity) hbound
  rw [hproduct] at hrounds'
  exact ⟨m, e, r, f, by rw [hread, hfinite], hcanonical, hrounds, hcanonical', hrounds'⟩

end Numeral

end Bookshop
