import Bookshop.Binary64.Basic
import Mathlib.Tactic

/-!
# Rounding to doubles

Rounding is studied over the rational numbers. A fraction has a binade, which settles the exponent,
and over the unit of that exponent it is rounded to a natural number.

The main statement is `ofRatio_eq_finite_iff`: the fractions that round to a double are those in an
interval around it, whose ends belong to it exactly when the significand is even. In particular the
result depends on the fraction only and not on how it is written.
-/

namespace Bookshop

namespace Binary64

/-! ### The nearest natural number -/

/-- `k` is the natural number nearest to `x`; a half goes to the even neighbour. -/
structure NearestEven (x : ℚ) (k : ℕ) : Prop where
  low : (k : ℚ) - 1 / 2 ≤ x
  high : x ≤ k + 1 / 2
  even : x = k - 1 / 2 ∨ x = k + 1 / 2 → k % 2 = 0

/-- There is one nearest number at most: between two the fraction would be the half, and not both
    are even. -/
theorem NearestEven.eq {x : ℚ} {k l : ℕ} (hk : NearestEven x k) (hl : NearestEven x l) : k = l := by
  have hle {a b : ℕ} (ha : NearestEven x a) (hb : NearestEven x b) : a ≤ b := by
    by_contra hlt
    have hstep : b + 1 ≤ a := by omega
    have hcast : (b : ℚ) + 1 ≤ a := by exact_mod_cast hstep
    have hnext : (a : ℚ) = b + 1 := by linarith [ha.low, hb.high]
    have hsucc : a = b + 1 := by exact_mod_cast hnext
    have haeven := ha.even (.inl (by linarith [ha.low, hb.high]))
    have hbeven := hb.even (.inr (by linarith [ha.low, hb.high]))
    omega
  exact le_antisymm (hle hk hl) (hle hl hk)

/-- The ends belong to a number when it is even, so an odd one needs to be strictly nearest. -/
theorem NearestEven.of_inside {x : ℚ} {k : ℕ} (hlow : (k : ℚ) - 1 / 2 ≤ x) (hhigh : x ≤ k + 1 / 2)
    (hinside : k % 2 = 1 → (k : ℚ) - 1 / 2 < x ∧ x < k + 1 / 2) : NearestEven x k := by
  refine ⟨hlow, hhigh, ?_⟩
  intro hend
  by_contra hodd
  obtain ⟨habove, hbelow⟩ := hinside (by omega)
  rcases hend with hend | hend
  · linarith
  · linarith

theorem divHalfEven_nearest (n : ℕ) {d : ℕ} (hd : 0 < d) :
    NearestEven ((n : ℚ) / d) (divHalfEven n d) := by
  have hdpos : (0 : ℚ) < d := by exact_mod_cast hd
  have hvalue : (n : ℚ) / d = (n / d : ℕ) + ((n % d : ℕ) : ℚ) / d := by
    have hsum : (n : ℚ) = d * (n / d : ℕ) + (n % d : ℕ) := by
      exact_mod_cast (Nat.div_add_mod n d).symm
    field_simp
    linarith
  have hnonneg : (0 : ℚ) ≤ ((n % d : ℕ) : ℚ) / d := by positivity
  have hlt : ((n % d : ℕ) : ℚ) / d < 1 := by
    rw [div_lt_one hdpos]
    exact_mod_cast Nat.mod_lt n hd
  unfold divHalfEven
  simp only
  rw [hvalue]
  generalize hquotient : n / d = quotient
  split
  · next h =>
    -- The remainder is below the half.
    have hhalf : ((n % d : ℕ) : ℚ) / d < 1 / 2 := by
      rw [div_lt_iff₀ hdpos]
      have : (2 * (n % d : ℕ) : ℚ) < d := by exact_mod_cast h
      linarith
    constructor
    · linarith
    · linarith
    · rintro (h | h) <;> linarith
  split
  · next h =>
    -- The remainder is above the half.
    have hhalf : 1 / 2 < ((n % d : ℕ) : ℚ) / d := by
      rw [lt_div_iff₀ hdpos]
      have : (d : ℚ) < 2 * (n % d : ℕ) := by exact_mod_cast h
      linarith
    constructor
    · push_cast
      linarith
    · push_cast
      linarith
    · push_cast
      rintro (h | h) <;> linarith
  · next hbelow habove =>
    -- The remainder is the half.
    have hhalf : ((n % d : ℕ) : ℚ) / d = 1 / 2 := by
      have htwice : 2 * (n % d) = d := by omega
      have : (2 * (n % d : ℕ) : ℚ) = d := by exact_mod_cast htwice
      rw [div_eq_iff hdpos.ne']
      linarith
    rw [hhalf]
    rcases Nat.mod_two_eq_zero_or_one quotient with hparity | hparity
    · simp only [hparity, Nat.add_zero]
      exact ⟨by linarith, by linarith, fun _ => hparity⟩
    · simp only [hparity]
      refine ⟨?_, ?_, ?_⟩
      · push_cast
        linarith
      · push_cast
        linarith
      · intro _
        omega

/-! ### Binades -/

/-- The power of two of the size of `q`. -/
structure InBinade (q : ℚ) (b : ℤ) : Prop where
  low : (2 : ℚ) ^ b ≤ q
  high : q < (2 : ℚ) ^ (b + 1)

theorem two_zpow_pos (e : ℤ) : (0 : ℚ) < 2 ^ e := zpow_pos (by norm_num) e

theorem two_zpow_le {e f : ℤ} (h : e ≤ f) : (2 : ℚ) ^ e ≤ 2 ^ f :=
  zpow_le_zpow_right₀ (by norm_num) h

theorem lt_of_two_zpow_lt {e f : ℤ} (h : (2 : ℚ) ^ e < 2 ^ f) : e < f :=
  (zpow_lt_zpow_iff_right₀ (by norm_num)).1 h

theorem two_zpow_succ (e : ℤ) : (2 : ℚ) ^ (e + 1) = 2 * 2 ^ e := by
  rw [zpow_add₀ (by norm_num), zpow_one, mul_comm]

theorem cast_mul_two_pow (m shift : ℕ) : ((m * 2 ^ shift : ℕ) : ℚ) = m * 2 ^ (shift : ℤ) := by
  push_cast
  rw [zpow_natCast]

theorem pow_toNat_div (a : ℚ) (e : ℤ) : a ^ e.toNat / a ^ (-e).toNat = a ^ e := by
  rcases le_total 0 e with h | h
  · obtain ⟨n, rfl⟩ := Int.eq_ofNat_of_zero_le h
    simp
  · obtain ⟨n, hn⟩ := Int.eq_ofNat_of_zero_le (Int.neg_nonneg_of_nonpos h)
    obtain rfl : e = -n := by omega
    simp

theorem scaled_div (n d : ℕ) (e : ℤ) :
    ((n * 2 ^ e.toNat : ℕ) : ℚ) / (d * 2 ^ (-e).toNat : ℕ) = (n : ℚ) / d * 2 ^ e := by
  push_cast
  rw [mul_div_mul_comm, pow_toNat_div]

/-- What the denominator of a double cancels. -/
theorem mul_two_zpow_mul (x : ℚ) (e : ℤ) : x * 2 ^ e * 2 ^ (-e).toNat = x * 2 ^ e.toNat := by
  rw [← pow_toNat_div]
  field_simp

theorem inBinade_log2 {n : ℕ} (hn : 0 < n) : InBinade n n.log2 := by
  constructor
  · rw [zpow_natCast]
    exact_mod_cast Nat.log2_self_le hn.ne'
  · exact_mod_cast Nat.lt_log2_self

/-- The binade of a quotient is the difference of the binades, or one below it. -/
theorem InBinade.div_bounds {x y : ℚ} {a b : ℤ} (hx : InBinade x a) (hy : InBinade y b) :
    2 ^ (a - b - 1) < x / y ∧ x / y < 2 ^ (a - b + 1) := by
  have hpos : 0 < y := (two_zpow_pos b).trans_le hy.low
  constructor
  · rw [lt_div_iff₀ hpos]
    calc (2 : ℚ) ^ (a - b - 1) * y < 2 ^ (a - b - 1) * 2 ^ (b + 1) :=
          mul_lt_mul_of_pos_left hy.high (two_zpow_pos _)
      _ = 2 ^ a := by
          rw [← zpow_add₀ (by norm_num)]
          congr 1
          ring
      _ ≤ x := hx.low
  · rw [div_lt_iff₀ hpos]
    calc x < 2 ^ (a + 1) := hx.high
      _ = 2 ^ (a - b + 1) * 2 ^ b := by
          rw [← zpow_add₀ (by norm_num)]
          congr 1
          ring
      _ ≤ 2 ^ (a - b + 1) * y := mul_le_mul_of_nonneg_left hy.low (two_zpow_pos _).le

theorem binade_spec {n d : ℕ} (hn : 0 < n) (hd : 0 < d) : InBinade ((n : ℚ) / d) (binade n d) := by
  have hdpos : (0 : ℚ) < d := by exact_mod_cast hd
  obtain ⟨hlow, hhigh⟩ := (inBinade_log2 hn).div_bounds (inBinade_log2 hd)
  unfold binade
  simp only
  generalize (n.log2 : ℤ) - d.log2 = k at hlow hhigh ⊢
  have hcompare : d * 2 ^ k.toNat ≤ n * 2 ^ (-k).toNat ↔ (2 : ℚ) ^ k ≤ (n : ℚ) / d := by
    rw [← pow_toNat_div, div_le_div_iff₀ (by positivity) hdpos, mul_comm d]
    exact_mod_cast Iff.rfl
  split
  · next h => exact ⟨hcompare.1 h, hhigh⟩
  · next h =>
    constructor
    · exact hlow.le
    · rw [sub_add_cancel]
      apply lt_of_not_ge
      intro hge
      exact h (hcompare.2 hge)

theorem InBinade.eq {q : ℚ} {b c : ℤ} (hb : InBinade q b) (hc : InBinade q c) : b = c := by
  have hle := lt_of_two_zpow_lt (hb.low.trans_lt hc.high)
  have hge := lt_of_two_zpow_lt (hc.low.trans_lt hb.high)
  omega

/-! ### The unit of a fraction -/

/-- The exponent that fractions of a binade are rounded with. -/
def unitExponent (b : ℤ) : ℤ := max (b - 52) leastExponent

theorem mul_zpow_neg_lt_iff {q : ℚ} {e : ℤ} {k : ℕ} :
    q * 2 ^ (-e) < 2 ^ k ↔ q < 2 ^ (k + e) := by
  rw [zpow_neg, ← div_eq_mul_inv, div_lt_iff₀ (two_zpow_pos e), zpow_add₀ (by norm_num),
    zpow_natCast]

theorem le_mul_zpow_neg_iff {q : ℚ} {e : ℤ} {k : ℕ} :
    2 ^ k ≤ q * 2 ^ (-e) ↔ 2 ^ (k + e) ≤ q := by
  rw [zpow_neg, ← div_eq_mul_inv, le_div_iff₀ (two_zpow_pos e), zpow_add₀ (by norm_num),
    zpow_natCast]

/-- Over its unit a fraction is below `2 ^ 53`, and not below `2 ^ 52` unless the unit is the least
    one. -/
theorem InBinade.unit_cases {q : ℚ} {b : ℤ} (h : InBinade q b) :
    q * 2 ^ (-unitExponent b) < 2 ^ 53 ∧
      (2 ^ 52 ≤ q * 2 ^ (-unitExponent b) ∨
        unitExponent b = leastExponent ∧ q * 2 ^ (-unitExponent b) < 2 ^ 52) := by
  rw [mul_zpow_neg_lt_iff, le_mul_zpow_neg_iff, mul_zpow_neg_lt_iff]
  push_cast
  have hmax : b - 52 ≤ unitExponent b := le_max_left _ _
  refine ⟨h.high.trans_le (two_zpow_le (by omega)), ?_⟩
  rcases le_or_gt leastExponent (b - 52) with hb | hb
  · left
    have hunit : unitExponent b = b - 52 := max_eq_left hb
    rw [hunit, add_sub_cancel]
    exact h.low
  · right
    have hunit : unitExponent b = leastExponent := max_eq_right hb.le
    exact ⟨hunit, h.high.trans_le (two_zpow_le (by omega))⟩

/-- The exponent over which a fraction has the right size is that of its unit. -/
theorem InBinade.unitExponent_eq {q : ℚ} {b e : ℤ} (h : InBinade q b)
    (hlt : q * 2 ^ (-e) < 2 ^ 53)
    (hle : 2 ^ 52 ≤ q * 2 ^ (-e) ∧ leastExponent ≤ e ∨ e = leastExponent) :
    unitExponent b = e := by
  rw [mul_zpow_neg_lt_iff] at hlt
  have hupper := lt_of_two_zpow_lt (h.low.trans_lt hlt)
  rcases hle with ⟨hle, hleast⟩ | rfl
  · rw [le_mul_zpow_neg_iff] at hle
    have hlower := lt_of_two_zpow_lt (hle.trans_lt h.high)
    have hb : b - 52 = e := by omega
    rw [unitExponent, hb]
    exact max_eq_left hleast
  · exact max_eq_right (by omega)

/-! ### Rounding -/

def pack (negative : Bool) (significand : ℕ) (exponent : ℤ) : Binary64 :=
  let (significand, exponent) :=
    if significand = 2 ^ 53 then (2 ^ 52, exponent + 1) else (significand, exponent)
  if greatestExponent < exponent then .infinite negative
  else .finite negative significand exponent

/-- The significand that the fraction is rounded to is nearest to it over the unit. -/
theorem significand_nearest (n : ℕ) {d : ℕ} (hd : 0 < d) (e : ℤ) :
    NearestEven ((n : ℚ) / d * 2 ^ (-e))
      (divHalfEven (n * 2 ^ (-e).toNat) (d * 2 ^ e.toNat)) := by
  have hnearest := divHalfEven_nearest (n * 2 ^ (-e).toNat)
    (Nat.mul_pos hd (Nat.two_pow_pos e.toNat))
  have hscaled := scaled_div n d (-e)
  rw [neg_neg] at hscaled
  rwa [hscaled] at hnearest

/-- The binade of a fraction and its significand over the unit determine the double. -/
theorem ofRatio_eq_pack (negative : Bool) {n d : ℕ} (hn : 0 < n) (hd : 0 < d) {b : ℤ}
    (hb : InBinade ((n : ℚ) / d) b) {significand : ℕ}
    (hsignificand : NearestEven ((n : ℚ) / d * 2 ^ (-unitExponent b)) significand) :
    ofRatio negative n d = pack negative significand (unitExponent b) := by
  obtain rfl := hb.eq (binade_spec hn hd)
  have hnearest := significand_nearest n hd (unitExponent (binade n d))
  rw [← hnearest.eq hsignificand, ofRatio, if_neg hn.ne']
  rfl

theorem exists_nearest {n d : ℕ} (hn : 0 < n) (hd : 0 < d) :
    ∃ b significand, InBinade ((n : ℚ) / d) b ∧
      NearestEven ((n : ℚ) / d * 2 ^ (-unitExponent b)) significand :=
  ⟨binade n d, _, binade_spec hn hd, significand_nearest n hd _⟩

/-- Rounding depends on the fraction only. -/
theorem ofRatio_congr (negative : Bool) {n d n' d' : ℕ} (hd : 0 < d) (hd' : 0 < d')
    (h : (n : ℚ) / d = (n' : ℚ) / d') : ofRatio negative n d = ofRatio negative n' d' := by
  have hdpos : (0 : ℚ) < d := by exact_mod_cast hd
  have hdpos' : (0 : ℚ) < d' := by exact_mod_cast hd'
  rcases Nat.eq_zero_or_pos n with rfl | hn
  · have hzero : (n' : ℚ) = 0 := by
      have := h.symm
      simpa [hdpos'.ne'] using this
    obtain rfl : n' = 0 := by exact_mod_cast hzero
    rfl
  · have hn' : 0 < n' := by
      have hpos : (0 : ℚ) < (n' : ℚ) / d' := by
        rw [← h]
        have : (0 : ℚ) < n := by exact_mod_cast hn
        positivity
      exact_mod_cast (div_pos_iff_of_pos_right hdpos').1 hpos
    obtain ⟨b, significand, hb, hsignificand⟩ := exists_nearest hn hd
    rw [ofRatio_eq_pack negative hn hd hb hsignificand]
    rw [h] at hb hsignificand
    rw [ofRatio_eq_pack negative hn' hd' hb hsignificand]

/-! ### The fractions that round to a double -/

/-- The form that every finite double has. -/
structure Canonical (m : ℕ) (e : ℤ) : Prop where
  lt : m < 2 ^ 53
  normal : 2 ^ 52 ≤ m ∨ e = leastExponent
  least : leastExponent ≤ e
  greatest : e ≤ greatestExponent

instance (m : ℕ) (e : ℤ) : Decidable (Canonical m e) :=
  decidable_of_iff
    (m < 2 ^ 53 ∧ (2 ^ 52 ≤ m ∨ e = leastExponent) ∧ leastExponent ≤ e ∧ e ≤ greatestExponent)
    ⟨fun ⟨hlt, hnormal, hleast, hgreatest⟩ => ⟨hlt, hnormal, hleast, hgreatest⟩,
      fun h => ⟨h.lt, h.normal, h.least, h.greatest⟩⟩

/-- How far below `m * 2 ^ e` the fractions that round to it reach, in units. Below the least
    significand of a binade the units are half as wide. -/
def reachBelow (m : ℕ) (e : ℤ) : ℚ := if m = 2 ^ 52 ∧ leastExponent < e then 1 / 4 else 1 / 2

/-- The fraction lies in the interval around `m * 2 ^ e`; its ends belong to it when `m` is even. -/
@[mk_iff]
structure RoundsTo (q : ℚ) (m : ℕ) (e : ℤ) : Prop where
  low : (m - reachBelow m e) * 2 ^ e ≤ q
  high : q ≤ (m + 1 / 2) * 2 ^ e
  inside : m % 2 = 1 → (m - reachBelow m e) * 2 ^ e < q ∧ q < (m + 1 / 2) * 2 ^ e

theorem reachBelow_le (m : ℕ) (e : ℤ) : 1 / 4 ≤ reachBelow m e ∧ reachBelow m e ≤ 1 / 2 := by
  unfold reachBelow
  split <;> norm_num

theorem roundsTo_iff_unit {q : ℚ} {m : ℕ} {e : ℤ} :
    RoundsTo q m e ↔ m - reachBelow m e ≤ q * 2 ^ (-e) ∧ q * 2 ^ (-e) ≤ m + 1 / 2 ∧
      (m % 2 = 1 → m - reachBelow m e < q * 2 ^ (-e) ∧ q * 2 ^ (-e) < m + 1 / 2) := by
  have hpos := two_zpow_pos e
  rw [zpow_neg, ← div_eq_mul_inv, le_div_iff₀ hpos, div_le_iff₀ hpos, lt_div_iff₀ hpos,
    div_lt_iff₀ hpos]
  exact roundsTo_iff q m e

theorem roundsTo_iff_nearest {q : ℚ} {m : ℕ} {e : ℤ} (h : reachBelow m e = 1 / 2) :
    RoundsTo q m e ↔ NearestEven (q * 2 ^ (-e)) m := by
  rw [roundsTo_iff_unit, h]
  constructor
  · rintro ⟨hlow, hhigh, hinside⟩
    exact .of_inside hlow hhigh hinside
  · intro hnearest
    refine ⟨hnearest.low, hnearest.high, ?_⟩
    intro hodd
    constructor
    · apply lt_of_le_of_ne hnearest.low
      intro heq
      have := hnearest.even (.inl heq.symm)
      omega
    · apply lt_of_le_of_ne hnearest.high
      intro heq
      have := hnearest.even (.inr heq)
      omega

/-- A significand that became `2 ^ 53` stands for the least one of the next binade. -/
theorem roundsTo_of_carry {q : ℚ} {b : ℤ} (hb : InBinade q b)
    (hnearest : NearestEven (q * 2 ^ (-unitExponent b)) (2 ^ 53)) :
    RoundsTo q (2 ^ 52) (unitExponent b + 1) := by
  obtain ⟨hlt, -⟩ := hb.unit_cases
  have hleast : leastExponent < unitExponent b + 1 := by
    have := le_max_right (b - 52) leastExponent
    unfold unitExponent
    omega
  have hhalf : q * 2 ^ (-(unitExponent b + 1)) = q * 2 ^ (-unitExponent b) / 2 := by
    rw [neg_add, zpow_add₀ (by norm_num), ← mul_assoc]
    norm_num
    ring
  have hlow := hnearest.low
  rw [roundsTo_iff_unit, reachBelow, if_pos ⟨rfl, hleast⟩, hhalf]
  generalize q * 2 ^ (-unitExponent b) = t at hlt hlow ⊢
  push_cast at hlow ⊢
  refine ⟨by linarith, by linarith, ?_⟩
  intro hodd
  norm_num at hodd

/-- A significand that stayed below `2 ^ 53` is that of the double. -/
theorem canonical_of_nearest {q : ℚ} {b : ℤ} (hb : InBinade q b) {m : ℕ} (hm : m ≠ 2 ^ 53)
    (hnearest : NearestEven (q * 2 ^ (-unitExponent b)) m)
    (hgreatest : unitExponent b ≤ greatestExponent) :
    Canonical m (unitExponent b) ∧ RoundsTo q m (unitExponent b) := by
  obtain ⟨hlt, hnormal⟩ := hb.unit_cases
  have hlow := hnearest.low
  have hhigh := hnearest.high
  refine ⟨⟨?_, ?_, le_max_right _ _, hgreatest⟩, ?_⟩
  · have hle : (m : ℚ) < (2 ^ 53 + 1 : ℕ) := by
      push_cast
      linarith
    have hle : m < 2 ^ 53 + 1 := by exact_mod_cast hle
    omega
  · rcases hnormal with hnormal | ⟨hleast, -⟩
    · left
      have hge : ((2 ^ 52 : ℕ) : ℚ) < (m + 1 : ℕ) := by
        push_cast
        linarith
      have hge : 2 ^ 52 < m + 1 := by exact_mod_cast hge
      omega
    · exact .inr hleast
  · by_cases hreach : m = 2 ^ 52 ∧ leastExponent < unitExponent b
    · -- The fraction is not below the double, which begins the binade.
      obtain ⟨rfl, hleast⟩ := hreach
      rw [roundsTo_iff_unit, reachBelow, if_pos ⟨rfl, hleast⟩]
      rcases hnormal with hnormal | ⟨hequal, -⟩
      · push_cast at hhigh ⊢
        refine ⟨by linarith, hhigh, ?_⟩
        intro hodd
        norm_num at hodd
      · omega
    · rw [roundsTo_iff_nearest (by rw [reachBelow, if_neg hreach])]
      exact hnearest

/-- The fractions of the interval of a double have its exponent, or they are those below the least
    significand of a binade and carry. -/
theorem pack_of_roundsTo (negative : Bool) {q : ℚ} {b : ℤ} (hb : InBinade q b) {m : ℕ} {e : ℤ}
    (hcanonical : Canonical m e) (h : RoundsTo q m e) :
    ∃ significand, NearestEven (q * 2 ^ (-unitExponent b)) significand ∧
      pack negative significand (unitExponent b) = .finite negative m e := by
  obtain ⟨hmlt, hnormal, hleast, hgreatest⟩ := hcanonical
  obtain ⟨hlow, hhigh, hinside⟩ := roundsTo_iff_unit.1 h
  have hmcast : (m : ℚ) + 1 ≤ 2 ^ 53 := by exact_mod_cast hmlt
  by_cases hbelow : (m = 2 ^ 52 ∧ leastExponent < e) ∧ q * 2 ^ (-e) < 2 ^ 52
  · obtain ⟨⟨rfl, hlt⟩, hbelow⟩ := hbelow
    rw [reachBelow, if_pos ⟨rfl, hlt⟩] at hlow
    have hdouble : q * 2 ^ (-(e - 1)) = 2 * (q * 2 ^ (-e)) := by
      rw [neg_sub, sub_eq_add_neg, zpow_add₀ (by norm_num), zpow_one]
      ring
    have hunit : unitExponent b = e - 1 := by
      apply hb.unitExponent_eq
      · rw [hdouble]
        linarith
      · left
        rw [hdouble]
        push_cast at hlow
        exact ⟨by linarith, by omega⟩
    refine ⟨2 ^ 53, ?_, ?_⟩
    · rw [hunit, hdouble]
      generalize q * 2 ^ (-e) = t at hbelow hlow
      push_cast at hlow
      refine ⟨?_, ?_, ?_⟩
      · push_cast
        linarith
      · push_cast
        linarith
      · intro _
        norm_num
    · simp only [pack, hunit, if_true, sub_add_cancel]
      exact if_neg (by omega)
  · have hreach := reachBelow_le m e
    have hnearest : NearestEven (q * 2 ^ (-e)) m := by
      apply NearestEven.of_inside
      · linarith
      · exact hhigh
      · intro hodd
        obtain ⟨hlow, hhigh⟩ := hinside hodd
        exact ⟨by linarith, hhigh⟩
    have hunit : unitExponent b = e := by
      apply hb.unitExponent_eq
      · linarith
      · rcases hnormal with hnormal | hequal
        · rcases hnormal.eq_or_lt with heq | hlt
          · -- The fraction is not below the double, unless the exponent is the least one.
            rcases hleast.eq_or_lt with hequal | hlt
            · exact .inr hequal.symm
            · exact .inl ⟨not_lt.1 fun h => hbelow ⟨⟨heq.symm, hlt⟩, h⟩, hleast⟩
          · have hcast : (2 : ℚ) ^ 52 + 1 ≤ m := by exact_mod_cast hlt
            exact .inl ⟨by linarith, hleast⟩
        · exact .inr hequal
    rw [hunit]
    refine ⟨m, hnearest, ?_⟩
    simp only [pack, if_neg hmlt.ne]
    exact if_neg (by omega)

/-- **The interval of a double.** The positive fractions that round to a finite double are those in
    the interval around it. -/
theorem ofRatio_eq_finite_iff (negative : Bool) {n d : ℕ} (hn : 0 < n) (hd : 0 < d) {m : ℕ}
    {e : ℤ} :
    ofRatio negative n d = .finite negative m e ↔
      Canonical m e ∧ RoundsTo ((n : ℚ) / d) m e := by
  constructor
  · intro h
    obtain ⟨b, significand, hb, hnearest⟩ := exists_nearest hn hd
    rw [ofRatio_eq_pack negative hn hd hb hnearest] at h
    by_cases hcarry : significand = 2 ^ 53
    · subst hcarry
      simp only [pack, if_true] at h
      split at h
      · cases h
      · next hgreatest =>
        cases h
        have hleast : leastExponent ≤ unitExponent b := le_max_right _ _
        exact ⟨⟨by norm_num, .inl le_rfl, by omega, by omega⟩, roundsTo_of_carry hb hnearest⟩
    · simp only [pack, if_neg hcarry] at h
      split at h
      · cases h
      · next hgreatest =>
        cases h
        exact canonical_of_nearest hb hcarry hnearest (by omega)
  · rintro ⟨hcanonical, hrounds⟩
    have hb := binade_spec hn hd
    obtain ⟨significand, hnearest, hpack⟩ := pack_of_roundsTo negative hb hcanonical hrounds
    rw [ofRatio_eq_pack negative hn hd hb hnearest, hpack]

/-! ### Sizes and errors -/

/-- Fractions far below the greatest double round to finite doubles. -/
theorem exists_ofRatio_finite (negative : Bool) {n d : ℕ} (hn : 0 < n) (hd : 0 < d)
    (h : (n : ℚ) / d < 2 ^ (1023 : ℤ)) : ∃ m e, ofRatio negative n d = .finite negative m e := by
  obtain ⟨b, significand, hb, hnearest⟩ := exists_nearest hn hd
  have hlt : b < 1023 := lt_of_two_zpow_lt (hb.low.trans_lt h)
  have hunit : unitExponent b < greatestExponent := by
    refine max_lt ?_ (by decide)
    unfold greatestExponent
    omega
  rw [ofRatio_eq_pack negative hn hd hb hnearest]
  by_cases hcarry : significand = 2 ^ 53
  · simp only [pack, if_pos hcarry]
    exact ⟨_, _, if_neg (by omega)⟩
  · simp only [pack, if_neg hcarry]
    exact ⟨_, _, if_neg (by omega)⟩

/-- Fractions that are not very large are rounded to finite doubles. -/
theorem exists_rounding (negative : Bool) {n d : ℕ} (hn : 0 < n) (hd : 0 < d)
    (h : (n : ℚ) / d ≤ 2 ^ 140) :
    ∃ m e, ofRatio negative n d = .finite negative m e ∧ Canonical m e ∧
      RoundsTo ((n : ℚ) / d) m e := by
  have hlt : (n : ℚ) / d < 2 ^ (1023 : ℤ) :=
    h.trans_lt ((two_zpow_le (e := 141) (by norm_num)).trans_lt' (by norm_num))
  obtain ⟨m, e, hfinite⟩ := exists_ofRatio_finite negative hn hd hlt
  exact ⟨m, e, hfinite, (ofRatio_eq_finite_iff negative hn hd).1 hfinite⟩

/-- The error of rounding is at most half a unit. -/
theorem RoundsTo.error_le_half {q : ℚ} {m : ℕ} {e : ℤ} (h : RoundsTo q m e) :
    |q - m * 2 ^ e| ≤ 2 ^ e / 2 := by
  have hunit := two_zpow_pos e
  have hreach := reachBelow_le m e
  have hlow := h.low
  have hhigh := h.high
  rw [abs_le]
  constructor
  · nlinarith
  · nlinarith

/-- The fractions up to a power of two are half a unit of the binade below it away from their
    doubles, at most. -/
theorem RoundsTo.error_le {q : ℚ} {m : ℕ} {e : ℤ} (h : RoundsTo q m e) (hcanonical : Canonical m e)
    {k : ℤ} (hk : leastExponent + 53 ≤ k) (hq : q ≤ 2 ^ k) : |q - m * 2 ^ e| ≤ 2 ^ (k - 54) := by
  have hlow := h.low
  have hhigh := h.high
  rcases lt_or_ge e (k - 52) with hsmall | hlarge
  · have hunit : (2 : ℚ) ^ e ≤ 2 * 2 ^ (k - 54) := by
      rw [← two_zpow_succ]
      exact two_zpow_le (by omega)
    exact h.error_le_half.trans (by linarith)
  · -- The double is not below the power and the fraction is not above it: it is the power.
    have hpos := two_zpow_pos e
    have hreach := reachBelow_le m e
    have hnormal : 2 ^ 52 ≤ m := hcanonical.normal.resolve_right (by omega)
    have hmcast : (2 : ℚ) ^ 52 ≤ m := by exact_mod_cast hnormal
    have hpower : (2 : ℚ) ^ k = 2 ^ 52 * 2 ^ (k - 52) := by
      rw [← zpow_natCast, ← zpow_add₀ (by norm_num)]
      congr 1
      omega
    have hunit := two_zpow_le hlarge
    have hm : m = 2 ^ 52 := by
      by_contra hne
      have hgt : (2 : ℚ) ^ 52 + 1 ≤ m := by exact_mod_cast lt_of_le_of_ne hnormal (Ne.symm hne)
      nlinarith
    have he : e = k - 52 := by
      by_contra hne
      have hdouble : 2 * (2 : ℚ) ^ (k - 52) ≤ 2 ^ e := by
        rw [← two_zpow_succ]
        exact two_zpow_le (by omega)
      nlinarith
    have hquarter : (2 : ℚ) ^ (k - 52) = 4 * 2 ^ (k - 54) := by
      rw [show k - 52 = k - 54 + 1 + 1 by omega, two_zpow_succ, two_zpow_succ]
      ring
    rw [reachBelow, if_pos ⟨hm, by omega⟩, hm, he] at hlow
    rw [hm, he, abs_le]
    push_cast at hlow ⊢
    constructor <;> linarith

/-! ### Order -/

theorem RoundsTo.pos {q : ℚ} {m : ℕ} {e : ℤ} (h : RoundsTo q m e) (hm : 0 < m) : 0 < q := by
  have hcast : (1 : ℚ) ≤ m := by exact_mod_cast hm
  have hreach := reachBelow_le m e
  exact (mul_pos (by linarith) (two_zpow_pos e)).trans_le h.low

theorem RoundsTo.le_double {q : ℚ} {m : ℕ} {e : ℤ} (h : RoundsTo q m e) (hq : 0 ≤ q) :
    (m : ℚ) * 2 ^ e ≤ 2 * q := by
  rcases Nat.eq_zero_or_pos m with rfl | hm
  · simpa using hq
  · have hcast : (1 : ℚ) ≤ m := by exact_mod_cast hm
    have hreach := reachBelow_le m e
    have hpos := two_zpow_pos e
    have hlow := h.low
    nlinarith

/-- The intervals of two doubles lie in the order of the doubles. -/
theorem Canonical.above_le_below {m m' : ℕ} {e e' : ℤ} (h : Canonical m e) (h' : Canonical m' e')
    (hlt : (m' : ℚ) * 2 ^ e' < m * 2 ^ e) :
    ((m' : ℚ) + 1 / 2) * 2 ^ e' ≤ (m - reachBelow m e) * 2 ^ e := by
  have hpos := two_zpow_pos e
  have hpos' := two_zpow_pos e'
  have hreach := reachBelow_le m e
  have hm' : (m' : ℚ) + 1 ≤ 2 ^ 53 := by exact_mod_cast h'.lt
  rcases lt_trichotomy e e' with hexponent | rfl | hexponent
  · -- A double of a greater exponent is normal, so it is not below one of a smaller exponent.
    have hnormal : (2 : ℚ) ^ 52 ≤ m' := by
      have hleast := h.least
      exact_mod_cast h'.normal.resolve_right (by omega)
    have hm : (m : ℚ) + 1 ≤ 2 ^ 53 := by exact_mod_cast h.lt
    have hdouble : 2 * (2 : ℚ) ^ e ≤ 2 ^ e' := by
      rw [← two_zpow_succ]
      exact two_zpow_le (by omega)
    nlinarith
  · have hcast : (m' : ℚ) < m := lt_of_mul_lt_mul_right hlt hpos.le
    have hsucc : (m' : ℚ) + 1 ≤ m := by
      have hnat : m' < m := by exact_mod_cast hcast
      exact_mod_cast hnat
    exact mul_le_mul_of_nonneg_right (by linarith) hpos.le
  · have hleast := h'.least
    have hnormal : 2 ^ 52 ≤ m := h.normal.resolve_right (by omega)
    have hdouble : 2 * (2 : ℚ) ^ e' ≤ 2 ^ e := by
      rw [← two_zpow_succ]
      exact two_zpow_le (by omega)
    have hunits : (2 : ℚ) ^ 52 - 1 / 4 ≤ m - reachBelow m e := by
      by_cases hm : m = 2 ^ 52
      · rw [reachBelow, if_pos ⟨hm, by omega⟩, hm]
        norm_num
      · have hgt : (2 : ℚ) ^ 52 + 1 ≤ m := by
          exact_mod_cast lt_of_le_of_ne hnormal (Ne.symm hm)
        linarith
    calc ((m' : ℚ) + 1 / 2) * 2 ^ e' ≤ ((2 : ℚ) ^ 52 - 1 / 4) * (2 * 2 ^ e') := by nlinarith
      _ ≤ (m - reachBelow m e) * 2 ^ e := by gcongr

/-- A positive fraction rounds to one double. -/
theorem RoundsTo.eq {q : ℚ} (hq : 0 < q) {m m' : ℕ} {e e' : ℤ} (hcanonical : Canonical m e)
    (h : RoundsTo q m e) (hcanonical' : Canonical m' e') (h' : RoundsTo q m' e') :
    m = m' ∧ e = e' := by
  obtain ⟨n, hn⟩ := Int.eq_ofNat_of_zero_le (Rat.num_pos.2 hq).le
  have hvalue : q = (n : ℚ) / q.den := by
    have hdiv := (Rat.num_div_den q).symm
    rwa [hn, Int.cast_natCast] at hdiv
  have hpos : 0 < n := by
    have hnum := Rat.num_pos.2 hq
    omega
  rw [hvalue] at h h'
  have hfirst := (ofRatio_eq_finite_iff false hpos q.den_pos).2 ⟨hcanonical, h⟩
  have hsecond := (ofRatio_eq_finite_iff false hpos q.den_pos).2 ⟨hcanonical', h'⟩
  rw [hfirst] at hsecond
  cases hsecond
  exact ⟨rfl, rfl⟩

/-- **Rounding keeps the order.** -/
theorem RoundsTo.mono {q q' : ℚ} (hq : 0 < q) {m m' : ℕ} {e e' : ℤ} (hcanonical : Canonical m e)
    (h : RoundsTo q m e) (hcanonical' : Canonical m' e') (h' : RoundsTo q' m' e') (hle : q ≤ q') :
    (m : ℚ) * 2 ^ e ≤ m' * 2 ^ e' := by
  rcases hle.eq_or_lt with rfl | hlt
  · obtain ⟨rfl, rfl⟩ := h.eq hq hcanonical hcanonical' h'
    exact le_rfl
  · by_contra hgt
    have horder := hcanonical.above_le_below hcanonical' (not_le.1 hgt)
    linarith [h.low, h'.high]

end Binary64

end Bookshop
