import Bookshop.Binary64.Shortest
import Bookshop.Proofs.Binary64.Rounding

/-!
# The shortest decimal reads back

A point of a decimal grid hits a double when it lies in the interval of the fractions that round to
the double. The search for the shortest decimal returns a point that hits, on a grid no finer than
any grid of which a hit is known.
-/

namespace Bookshop

namespace Binary64

/-! ### One grid -/

/-- Over a common denominator the points of a grid and the quarters of a significand are natural
    numbers. -/
theorem Grid.exists_denominator (e k : ℤ) : ∃ denominator : ℚ, 0 < denominator ∧
    (∀ a : ℕ, (a : ℚ) / 4 * 2 ^ e * denominator =
      (a * (2 ^ (e - 2).toNat * 10 ^ (-k).toNat) : ℕ)) ∧
    ∀ c : ℕ, (c : ℚ) * 10 ^ k * denominator = (c * (10 ^ k.toNat * 2 ^ (2 - e).toNat) : ℕ) := by
  refine ⟨2 ^ (2 - e).toNat * 10 ^ (-k).toNat, by positivity, ?_, ?_⟩
  · intro a
    have hpower : (2 : ℚ) ^ e = 4 * (2 ^ (e - 2).toNat / 2 ^ (-(e - 2)).toNat) := by
      rw [pow_toNat_div, zpow_sub₀ (by norm_num)]
      norm_num
      ring
    rw [hpower, neg_sub]
    push_cast
    field_simp
  · intro c
    rw [← pow_toNat_div 10 k]
    push_cast
    field_simp

theorem cast_lowQuarters {m : ℕ} (hm : 0 < m) (e : ℤ) :
    ((if m = 2 ^ 52 ∧ leastExponent < e then 4 * m - 1 else 4 * m - 2 : ℕ) : ℚ) / 4 =
      m - reachBelow m e := by
  unfold reachBelow
  split
  · rw [Nat.cast_sub (by omega)]
    push_cast
    ring
  · rw [Nat.cast_sub (by omega)]
    push_cast
    ring

/-- A grid point hits just when it rounds to the double. -/
theorem Grid.hits_iff {m : ℕ} (hm : 0 < m) (e k : ℤ) (c : ℕ) :
    (Grid.of m e k).hits c = true ↔ RoundsTo ((c : ℚ) * 10 ^ k) m e := by
  obtain ⟨denominator, hpos, hquarters, hpoint⟩ := Grid.exists_denominator e k
  have hend : (m : ℚ) + 1 / 2 = ((4 * m + 2 : ℕ) : ℚ) / 4 := by
    push_cast
    ring
  -- The four comparisons are multiplied by the common denominator.
  have hlow (a : ℕ) : (a : ℚ) / 4 * 2 ^ e ≤ c * 10 ^ k ↔
      a * (2 ^ (e - 2).toNat * 10 ^ (-k).toNat) ≤ c * (10 ^ k.toNat * 2 ^ (2 - e).toNat) := by
    rw [← mul_le_mul_iff_left₀ hpos, hquarters, hpoint, Nat.cast_le]
  have hlow' (a : ℕ) : (a : ℚ) / 4 * 2 ^ e < c * 10 ^ k ↔
      a * (2 ^ (e - 2).toNat * 10 ^ (-k).toNat) < c * (10 ^ k.toNat * 2 ^ (2 - e).toNat) := by
    rw [← mul_lt_mul_iff_left₀ hpos, hquarters, hpoint, Nat.cast_lt]
  have hhigh (a : ℕ) : (c : ℚ) * 10 ^ k ≤ a / 4 * 2 ^ e ↔
      c * (10 ^ k.toNat * 2 ^ (2 - e).toNat) ≤ a * (2 ^ (e - 2).toNat * 10 ^ (-k).toNat) := by
    rw [← mul_le_mul_iff_left₀ hpos, hquarters, hpoint, Nat.cast_le]
  have hhigh' (a : ℕ) : (c : ℚ) * 10 ^ k < a / 4 * 2 ^ e ↔
      c * (10 ^ k.toNat * 2 ^ (2 - e).toNat) < a * (2 ^ (e - 2).toNat * 10 ^ (-k).toNat) := by
    rw [← mul_lt_mul_iff_left₀ hpos, hquarters, hpoint, Nat.cast_lt]
  rw [roundsTo_iff, ← cast_lowQuarters hm, hend, hlow, hlow', hhigh, hhigh', Grid.hits]
  rcases Nat.mod_two_eq_zero_or_one m with hparity | hparity
  · simp [Grid.of, hparity]
  · simp only [Grid.of, hparity]
    simp
    omega

/-- Between the double and a point that hits every point hits. -/
theorem Grid.hits_of_between {g : Grid} (hlow : g.low < g.middle) (hhigh : g.middle < g.high)
    {c c' : ℕ} (hc : g.hits c = true)
    (hbetween : c * g.step ≤ c' * g.step ∧ c' * g.step ≤ g.middle ∨
      g.middle ≤ c' * g.step ∧ c' * g.step ≤ c * g.step) : g.hits c' = true := by
  unfold Grid.hits at hc ⊢
  cases hclosed : g.closed with
  | false =>
    simp only [hclosed, Bool.false_eq_true, if_false, Bool.and_eq_true, decide_eq_true_eq] at hc ⊢
    omega
  | true =>
    simp only [hclosed, if_true, Bool.and_eq_true, decide_eq_true_eq] at hc ⊢
    omega

/-- If any point of the grid hits, the nearest one is found. -/
theorem Grid.exists_nearest? {g : Grid} (hlow : g.low < g.middle) (hhigh : g.middle < g.high)
    (hstep : 0 < g.step) {c : ℕ} (hc : g.hits c = true) : ∃ nearest, g.nearest? = some nearest := by
  have hside : g.hits (g.middle / g.step) = true ∨ g.hits (g.middle / g.step + 1) = true := by
    rcases Nat.lt_or_ge (g.middle / g.step) c with hgt | hle
    · right
      have habove : g.middle < (g.middle / g.step + 1) * g.step := by
        rw [Nat.mul_comm]
        exact Nat.lt_mul_div_succ g.middle hstep
      exact Grid.hits_of_between hlow hhigh hc (.inr ⟨habove.le, Nat.mul_le_mul_right _ hgt⟩)
    · left
      exact Grid.hits_of_between hlow hhigh hc
        (.inl ⟨Nat.mul_le_mul_right _ hle, Nat.div_mul_le_self g.middle g.step⟩)
  unfold Grid.nearest?
  simp only
  split
  · next hbelow habove => simp [hbelow, habove] at hside
  · exact ⟨_, rfl⟩
  · exact ⟨_, rfl⟩
  · split
    · exact ⟨_, rfl⟩
    split
    · exact ⟨_, rfl⟩
    split
    · exact ⟨_, rfl⟩
    · exact ⟨_, rfl⟩

theorem Grid.hits_of_nearest? {g : Grid} {c : ℕ} (h : g.nearest? = some c) : g.hits c = true := by
  unfold Grid.nearest? at h
  simp only at h
  split at h
  · cases h
  · next hbelow _ =>
    cases h
    exact hbelow
  · next habove =>
    cases h
    exact habove
  · next hbelow habove =>
    split at h
    · cases h
      exact hbelow
    split at h
    · cases h
      exact habove
    split at h
    · cases h
      exact hbelow
    · cases h
      exact habove

theorem Grid.of_bounds {m : ℕ} (hm : 0 < m) (e k : ℤ) :
    (Grid.of m e k).low < (Grid.of m e k).middle ∧ (Grid.of m e k).middle < (Grid.of m e k).high ∧
      0 < (Grid.of m e k).step := by
  have hscale : 0 < 2 ^ (e - 2).toNat * 10 ^ (-k).toNat := by positivity
  refine ⟨Nat.mul_lt_mul_of_pos_right ?_ hscale, Nat.mul_lt_mul_of_pos_right (by omega) hscale, ?_⟩
  · split <;> omega
  · simp only [Grid.of, Nat.pow_eq]
    positivity

/-! ### The search -/

/-- The search from grid to grid ends with a hit before the grids are finer than one that is known
    to have a hit. -/
theorem shortestFrom_spec {m : ℕ} (hm : 0 < m) {e k₀ : ℤ} {c₀ : ℕ}
    (h₀ : (Grid.of m e k₀).hits c₀ = true) {tries : ℕ} {k : ℤ} (hk : k₀ ≤ k)
    (htries : k < k₀ + tries) :
    ∃ c k', shortestFrom m e tries k = (c, k') ∧ k₀ ≤ k' ∧ k' ≤ k ∧
      (Grid.of m e k').hits c = true := by
  induction tries generalizing k with
  | zero => omega
  | succ tries ih =>
    rw [shortestFrom]
    cases hnearest : (Grid.of m e k).nearest? with
    | some c => exact ⟨c, k, rfl, hk, le_rfl, Grid.hits_of_nearest? hnearest⟩
    | none =>
      have hne : k ≠ k₀ := by
        rintro rfl
        obtain ⟨hlow, hhigh, hstep⟩ := Grid.of_bounds hm e k
        obtain ⟨c, hc⟩ := Grid.exists_nearest? hlow hhigh hstep h₀
        rw [hnearest] at hc
        cases hc
      push_cast at htries
      obtain ⟨c, k', heq, hlow, hhigh, hc⟩ := ih (k := k - 1) (by omega) (by omega)
      exact ⟨c, k', heq, hlow, by omega, hc⟩

/-- The grid that the search starts from lies where the size of the double puts it. -/
theorem decimalExponent_bounds {m : ℕ} {e low high : ℤ} (hm : 0 < m)
    (hlow : (2 : ℚ) ^ low < m * 2 ^ e) (hhigh : (m : ℚ) * 2 ^ e < 2 ^ high) :
    (low + 1) * 30103 / 100000 + 1 ≤ decimalExponent m e ∧
      decimalExponent m e ≤ high * 30103 / 100000 + 1 := by
  obtain ⟨hlogLow, hlogHigh⟩ := inBinade_log2 hm
  have hupper : (m.log2 : ℤ) + e < high := by
    refine lt_of_two_zpow_lt (lt_of_le_of_lt ?_ hhigh)
    rw [zpow_add₀ (by norm_num)]
    gcongr
  have hlower : low < (m.log2 : ℤ) + 1 + e := by
    refine lt_of_two_zpow_lt (hlow.trans ?_)
    rw [zpow_add₀ (by norm_num) _ e]
    gcongr
  unfold decimalExponent
  omega

/-- **The shortest decimal reads back.** If a decimal on one of the grids of the search rounds to
    the double, then the search returns one that does, on a grid that is at least as coarse. -/
theorem shortest_spec {m : ℕ} (hm : 0 < m) {e k₀ : ℤ} {c₀ : ℕ}
    (h₀ : RoundsTo ((c₀ : ℚ) * 10 ^ k₀) m e) (hk : k₀ ≤ decimalExponent m e)
    (htries : decimalExponent m e < k₀ + 20) :
    ∃ c k, shortest m e = (c, k) ∧ k₀ ≤ k ∧ k ≤ decimalExponent m e ∧
      RoundsTo ((c : ℚ) * 10 ^ k) m e := by
  have hhits := (Grid.hits_iff hm e k₀ c₀).2 h₀
  have hwithin : decimalExponent m e < k₀ + (20 : ℕ) := by
    push_cast
    exact htries
  obtain ⟨c, k, heq, hlow, hhigh, hc⟩ := shortestFrom_spec hm hhits hk hwithin
  exact ⟨c, k, heq, hlow, hhigh, (Grid.hits_iff hm e k c).1 hc⟩

end Binary64

end Bookshop
