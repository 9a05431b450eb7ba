import Bookshop.Cart.Line
import Mathlib.Algebra.Ring.Int.Defs

/-!
# Totals are exact or refused

The total of lines is computed with checked words. Against the unbounded integers it is either the
exact sum or refused, and it is refused exactly when a line or a sum of the first lines does not fit
a word. `Line.sumOf_eq_ok_iff` says when there is a total and which one it is,
`Line.sumOf_eq_error_iff` when there is none.
-/

namespace Bookshop

/-! ### Numbers that fit a word -/

/-- The integer is denoted by a word. -/
def FitsWord (n : Int) : Prop := -2 ^ 63 ≤ n ∧ n < 2 ^ 63

instance (n : Int) : Decidable (FitsWord n) := by unfold FitsWord; infer_instance

theorem fitsWord_toInt (word : Int64) : FitsWord word.toInt := ⟨word.le_toInt, word.toInt_lt⟩

theorem exists_word_of_fits {n : Int} (h : FitsWord n) : ∃ word : Int64, word.toInt = n :=
  ⟨Int64.ofInt n, Int64.toInt_ofInt_of_le h.1 h.2⟩

theorem fit?_eq_none_iff {n : Int} : fit? n = none ↔ ¬ FitsWord n := by
  constructor
  · intro h hfits
    obtain ⟨word, hword⟩ := exists_word_of_fits hfits
    rw [fit?_eq_some_iff.2 hword] at h
    cases h
  · intro h
    cases hword : fit? n with
    | none => rfl
    | some word => exact absurd (fit?_eq_some_iff.1 hword ▸ fitsWord_toInt word) h

theorem addChecked_eq_some_iff {a b c : Int64} :
    addChecked a b = some c ↔ c.toInt = a.toInt + b.toInt := fit?_eq_some_iff

/-! ### Amounts -/

namespace Money

theorem add?_eq_some_iff {a b c : Money} :
    a.add? b = some c ↔ c.cents.toInt = a.cents.toInt + b.cents.toInt := by
  constructor
  · intro h
    obtain ⟨word, hword, rfl⟩ := Option.map_eq_some_iff.1 h
    exact addChecked_eq_some_iff.1 hword
  · intro h
    simp [add?, addChecked_eq_some_iff.2 h]

theorem times?_eq_some_iff {a c : Money} {factor : Int64} :
    a.times? factor = some c ↔ c.cents.toInt = a.cents.toInt * factor.toInt := by
  constructor
  · intro h
    obtain ⟨word, hword, rfl⟩ := Option.map_eq_some_iff.1 h
    exact fit?_eq_some_iff.1 hword
  · intro h
    have hword : mulChecked a.cents factor = some c.cents := fit?_eq_some_iff.2 h
    simp [times?, hword]

def exactSum (amounts : List Money) : Int := (amounts.map fun m => m.cents.toInt).sum

@[simp] theorem exactSum_nil : exactSum [] = 0 := rfl

@[simp] theorem exactSum_cons (m : Money) (amounts : List Money) :
    exactSum (m :: amounts) = m.cents.toInt + exactSum amounts := rfl

/-- Adding amounts one after the other gives their exact sum, provided that every partial sum
    fits. -/
theorem foldlM_add?_eq_some_iff (amounts : List Money) (start result : Money) :
    amounts.foldlM add? start = some result ↔
      (∀ front, front <+: amounts → FitsWord (start.cents.toInt + exactSum front)) ∧
        result.cents.toInt = start.cents.toInt + exactSum amounts := by
  induction amounts generalizing start with
  | nil =>
    simp only [List.foldlM_nil, Option.pure_def, Option.some.injEq, List.prefix_nil, forall_eq,
      exactSum_nil, Int.add_zero]
    constructor
    · rintro rfl
      exact ⟨fitsWord_toInt _, rfl⟩
    · rintro ⟨-, h⟩
      exact (eq_of_cents h).symm
  | cons m amounts ih =>
    rw [List.foldlM_cons]
    constructor
    · intro h
      obtain ⟨next, hnext, hrest⟩ := Option.bind_eq_some_iff.1 h
      have hcents := add?_eq_some_iff.1 hnext
      obtain ⟨hfronts, hresult⟩ := (ih next).1 hrest
      refine ⟨?_, by rw [hresult, hcents, exactSum_cons, Int.add_assoc]⟩
      intro front hfront
      rcases List.prefix_cons_iff.1 hfront with rfl | ⟨tail, rfl, htail⟩
      · simpa using fitsWord_toInt start.cents
      · have := hfronts tail htail
        rwa [hcents, Int.add_assoc] at this
    · rintro ⟨hfronts, hresult⟩
      have hfirst : FitsWord (start.cents.toInt + m.cents.toInt) := by
        simpa using hfronts [m] (by simp)
      obtain ⟨word, hword⟩ := exists_word_of_fits hfirst
      have hnext : start.add? m = some ⟨word⟩ := add?_eq_some_iff.2 hword
      rw [hnext]
      refine (ih ⟨word⟩).2 ⟨?_, by rw [hresult, hword, exactSum_cons, Int.add_assoc]⟩
      intro front hfront
      have := hfronts (m :: front) (List.cons_prefix_cons.2 ⟨rfl, hfront⟩)
      rwa [exactSum_cons, ← Int.add_assoc, ← hword] at this

end Money

/-! ### Lines -/

namespace Line

/-- The exact value of a line: price times quantity. -/
def worth (line : Line) : Int := line.price.cents.toInt * line.quantity.toInt

def worthOf (lines : List Line) : Int := (lines.map worth).sum

/-- Every line and every sum of the first lines fits a word. -/
structure Summable (lines : List Line) : Prop where
  each : ∀ line ∈ lines, FitsWord line.worth
  fronts : ∀ front, front <+: lines → FitsWord (worthOf front)

theorem total_eq_ok_iff {line : Line} {amount : Money} :
    line.total = .ok amount ↔ amount.cents.toInt = line.worth := by
  unfold total worth
  rw [← Money.times?_eq_some_iff]
  cases line.price.times? line.quantity <;> simp

theorem total_eq_error {line : Line} {e : CartError} (h : line.total = .error e) :
    e = .overflow := by
  unfold total at h
  split at h
  · cases h
  · cases h; rfl

theorem totals_cons_eq_ok_iff {line : Line} {lines : List Line} {amounts : List Money} :
    totals (line :: lines) = .ok amounts ↔ ∃ amount rest,
      line.total = .ok amount ∧ totals lines = .ok rest ∧ amounts = amount :: rest := by
  rw [totals]
  cases line.total with
  | error e => simp
  | ok amount => cases totals lines <;> simp [eq_comm]

theorem totals_eq_ok_iff (lines : List Line) (amounts : List Money) :
    totals lines = .ok amounts ↔ amounts.map (fun m => m.cents.toInt) = lines.map worth := by
  induction lines generalizing amounts with
  | nil =>
    constructor
    · intro h; cases h; rfl
    · intro h; rw [List.map_eq_nil_iff.1 h]; rfl
  | cons line lines ih =>
    simp only [totals_cons_eq_ok_iff, total_eq_ok_iff, ih]
    constructor
    · rintro ⟨amount, rest, hamount, hrest, rfl⟩
      rw [List.map_cons, List.map_cons, hamount, hrest]
    · intro h
      obtain ⟨amount, rest, rfl, hamount, hrest⟩ := List.map_eq_cons_iff.1 h
      exact ⟨amount, rest, hamount, hrest, rfl⟩

theorem totals_eq_error {lines : List Line} {e : CartError} (h : totals lines = .error e) :
    e = .overflow := by
  induction lines with
  | nil => cases h
  | cons line lines ih =>
    unfold totals at h
    split at h
    · next hline => cases h; exact total_eq_error hline
    · split at h
      · next htail => cases h; exact ih htail
      · cases h

theorem exists_totals {lines : List Line} (h : ∀ line ∈ lines, FitsWord line.worth) :
    ∃ amounts, totals lines = .ok amounts := by
  induction lines with
  | nil => exact ⟨[], rfl⟩
  | cons line lines ih =>
    obtain ⟨word, hword⟩ := exists_word_of_fits (h line (by simp))
    obtain ⟨amounts, hamounts⟩ := ih fun other hother => h other (by simp [hother])
    have hline : line.total = .ok ⟨word⟩ := total_eq_ok_iff.2 hword
    exact ⟨⟨word⟩ :: amounts, by simp only [totals, hline, hamounts]⟩

theorem fronts_of_totals {lines : List Line} {amounts : List Money}
    (h : amounts.map (fun m => m.cents.toInt) = lines.map worth) :
    (∀ front, front <+: amounts → FitsWord (Money.exactSum front)) ↔
      ∀ front, front <+: lines → FitsWord (worthOf front) := by
  have hlength : amounts.length = lines.length := by simpa using congrArg List.length h
  have htake (k : Nat) : Money.exactSum (amounts.take k) = worthOf (lines.take k) := by
    simp only [Money.exactSum, worthOf, List.map_take, h]
  constructor
  · intro hfronts front hfront
    rw [List.prefix_iff_eq_take.1 hfront, ← htake]
    exact hfronts _ (List.take_prefix _ _)
  · intro hfronts front hfront
    rw [List.prefix_iff_eq_take.1 hfront, htake]
    exact hfronts _ (List.take_prefix _ _)

/-- The amounts of lines have a sum exactly when every partial sum of the lines fits, and then it is
    the exact one. -/
theorem sum?_eq_some_iff {lines : List Line} {amounts : List Money} {amount : Money}
    (h : amounts.map (fun m => m.cents.toInt) = lines.map worth) :
    Money.sum? amounts = some amount ↔
      (∀ front, front <+: lines → FitsWord (worthOf front)) ∧
        amount.cents.toInt = worthOf lines := by
  have hsum : Money.exactSum amounts = worthOf lines := congrArg List.sum h
  rw [Money.sum?, Money.foldlM_add?_eq_some_iff]
  simp only [show Money.zero.cents.toInt = 0 from rfl, Int.zero_add, hsum, fronts_of_totals h]

theorem fits_of_totals {lines : List Line} {amounts : List Money}
    (h : amounts.map (fun m => m.cents.toInt) = lines.map worth) :
    ∀ line ∈ lines, FitsWord line.worth := by
  intro line hline
  have hmem : line.worth ∈ amounts.map fun m => m.cents.toInt := by
    rw [h]
    exact List.mem_map_of_mem hline
  obtain ⟨m, -, hm⟩ := List.mem_map.1 hmem
  exact hm ▸ fitsWord_toInt m.cents

/-- **Totals are exact.** There is a total exactly when every line and every partial sum fits, and
    then it is the exact sum. -/
theorem sumOf_eq_ok_iff {lines : List Line} {amount : Money} :
    sumOf lines = .ok amount ↔ Summable lines ∧ amount.cents.toInt = worthOf lines := by
  unfold sumOf
  cases htotals : totals lines with
  | error e =>
    constructor
    · intro h; cases h
    · rintro ⟨hsummable, -⟩
      obtain ⟨amounts, hamounts⟩ := exists_totals hsummable.each
      rw [hamounts] at htotals
      cases htotals
  | ok amounts =>
    have hamounts := (totals_eq_ok_iff lines amounts).1 htotals
    constructor
    · intro h
      simp only at h
      split at h
      · next found hfound =>
        cases h
        obtain ⟨hfronts, hsum⟩ := (sum?_eq_some_iff hamounts).1 hfound
        exact ⟨⟨fits_of_totals hamounts, hfronts⟩, hsum⟩
      · cases h
    · rintro ⟨hsummable, hsum⟩
      simp only [(sum?_eq_some_iff hamounts).2 ⟨hsummable.fronts, hsum⟩]

theorem sumOf_eq_error {lines : List Line} {e : CartError} (h : sumOf lines = .error e) :
    e = .overflow := by
  unfold sumOf at h
  split at h
  · next htotals => cases h; exact totals_eq_error htotals
  · split at h
    · cases h
    · cases h; rfl

theorem exists_sumOf {lines : List Line} (h : Summable lines) :
    ∃ amount, sumOf lines = .ok amount := by
  obtain ⟨word, hword⟩ := exists_word_of_fits (h.fronts lines List.prefix_rfl)
  exact ⟨⟨word⟩, sumOf_eq_ok_iff.2 ⟨h, hword⟩⟩

/-- A total is refused exactly when a line or a partial sum does not fit, and for no other
    reason. -/
theorem sumOf_eq_error_iff {lines : List Line} {e : CartError} :
    sumOf lines = .error e ↔ ¬ Summable lines ∧ e = .overflow := by
  constructor
  · intro h
    refine ⟨?_, sumOf_eq_error h⟩
    intro hsummable
    obtain ⟨amount, hamount⟩ := exists_sumOf hsummable
    rw [hamount] at h
    cases h
  · rintro ⟨hsummable, rfl⟩
    cases hsum : sumOf lines with
    | error e => rw [sumOf_eq_error hsum]
    | ok amount => exact absurd (sumOf_eq_ok_iff.1 hsum).1 hsummable

end Line

end Bookshop
