import Mathlib.Algebra.Order.BigOperators.Group.List
import Bookshop.Proofs.Cart.Total

/-!
# When lines have a total

Lines have a total when each of them and each of their partial sums fits a word. In one line among
others all of these are linear in the quantity, so a quantity between two that give a total gives
one, too (`Summable.between`), whatever the signs of the prices are. When no line takes away what
another one adds, the partial sums lead straight to the sum of all lines, which settles whether
there is a total (`OneSigned.summable_iff`), so that the order of the lines does not matter
(`OneSigned.sumOf_perm`).
-/

namespace Bookshop

theorem FitsWord.between {low high n : Int} (hlow : FitsWord low) (hhigh : FitsWord high)
    (h : low ≤ n ∧ n ≤ high ∨ high ≤ n ∧ n ≤ low) : FitsWord n := by
  obtain ⟨hlow₁, hlow₂⟩ := hlow
  obtain ⟨hhigh₁, hhigh₂⟩ := hhigh
  constructor
  · omega
  · omega

namespace Line

@[simp] theorem worthOf_nil : worthOf [] = 0 := rfl

@[simp] theorem worthOf_cons (line : Line) (lines : List Line) :
    worthOf (line :: lines) = line.worth + worthOf lines := rfl

@[simp] theorem worthOf_append (lines others : List Line) :
    worthOf (lines ++ others) = worthOf lines + worthOf others := by
  simp [worthOf]

variable {front back lines : List Line} {line : Line}

/-! ### One line among others -/

/-- The partial sums of lines stop in front of a line of theirs or go on beyond it. -/
theorem summable_around_iff :
    Summable (front ++ line :: back) ↔
      Summable front ∧ FitsWord line.worth ∧ (∀ other ∈ back, FitsWord other.worth) ∧
        ∀ part, part <+: back → FitsWord (worthOf front + line.worth + worthOf part) := by
  constructor
  · rintro ⟨heach, hfronts⟩
    refine ⟨⟨?_, ?_⟩, ?_, ?_, ?_⟩
    · intro other hother
      exact heach other (List.mem_append_left _ hother)
    · intro part hpart
      exact hfronts part (hpart.trans (List.prefix_append _ _))
    · exact heach line (by simp)
    · intro other hother
      exact heach other (by simp [hother])
    · intro part hpart
      have hwhole : front ++ line :: part <+: front ++ line :: back := by simpa using hpart
      have hfits := hfronts _ hwhole
      rwa [worthOf_append, worthOf_cons, ← Int.add_assoc] at hfits
  · rintro ⟨⟨heach, hfronts⟩, hline, hback, hbeyond⟩
    constructor
    · intro other hother
      rcases List.mem_append.1 hother with hother | hother
      · exact heach other hother
      · rcases List.mem_cons.1 hother with rfl | hother
        · exact hline
        · exact hback other hother
    · intro part hpart
      rcases List.prefix_or_prefix_of_prefix hpart (List.prefix_append front (line :: back)) with
        hshort | ⟨rest, rfl⟩
      · exact hfronts part hshort
      · rw [List.prefix_append_right_inj] at hpart
        rcases List.prefix_cons_iff.1 hpart with rfl | ⟨tail, rfl, htail⟩
        · rw [List.append_nil]
          exact hfronts front List.prefix_rfl
        · rw [worthOf_append, worthOf_cons, ← Int.add_assoc]
          exact hbeyond tail htail

/-- The worth of a line lies between its worths for a smaller and for a greater quantity. -/
theorem worth_between (line : Line) {low quantity high : Int64} (hlow : low.toInt ≤ quantity.toInt)
    (hhigh : quantity.toInt ≤ high.toInt) :
    worth { line with quantity := low } ≤ worth { line with quantity } ∧
        worth { line with quantity } ≤ worth { line with quantity := high } ∨
      worth { line with quantity := high } ≤ worth { line with quantity } ∧
        worth { line with quantity } ≤ worth { line with quantity := low } := by
  unfold worth
  rcases Int.le_total 0 line.price.cents.toInt with hprice | hprice
  · exact .inl ⟨Int.mul_le_mul_of_nonneg_left hlow hprice,
      Int.mul_le_mul_of_nonneg_left hhigh hprice⟩
  · exact .inr ⟨Int.mul_le_mul_of_nonpos_left hprice hhigh,
      Int.mul_le_mul_of_nonpos_left hprice hlow⟩

/-- What has a total for a smaller and for a greater quantity of a line has one in between. -/
theorem Summable.between {low quantity high : Int64} (hlow : low.toInt ≤ quantity.toInt)
    (hhigh : quantity.toInt ≤ high.toInt)
    (hsmall : Summable (front ++ { line with quantity := low } :: back))
    (hlarge : Summable (front ++ { line with quantity := high } :: back)) :
    Summable (front ++ { line with quantity } :: back) := by
  obtain ⟨hfront, hworth, hback, hbeyond⟩ := summable_around_iff.1 hsmall
  obtain ⟨-, hworth', -, hbeyond'⟩ := summable_around_iff.1 hlarge
  have hbetween := line.worth_between hlow hhigh
  refine summable_around_iff.2 ⟨hfront, hworth.between hworth' hbetween, hback, ?_⟩
  intro part hpart
  apply (hbeyond part hpart).between (hbeyond' part hpart)
  omega

/-! ### Lines of one sign -/

theorem worthOf_perm {others : List Line} (h : lines.Perm others) :
    worthOf lines = worthOf others := (h.map worth).sum_eq

theorem worthOf_nonneg (h : ∀ line ∈ lines, 0 ≤ line.worth) : 0 ≤ worthOf lines := by
  apply List.sum_nonneg
  exact List.forall_mem_map.2 h

theorem worthOf_nonpos (h : ∀ line ∈ lines, line.worth ≤ 0) : worthOf lines ≤ 0 := by
  have hsum := List.sum_le_card_nsmul (lines.map worth) 0 (List.forall_mem_map.2 h)
  rwa [nsmul_zero] at hsum

/-- No line takes away what another one adds. -/
def OneSigned (lines : List Line) : Prop :=
  (∀ line ∈ lines, 0 ≤ line.worth) ∨ ∀ line ∈ lines, line.worth ≤ 0

instance (lines : List Line) : Decidable (OneSigned lines) := instDecidableOr

theorem OneSigned.perm {others : List Line} (h : OneSigned lines) (hperm : lines.Perm others) :
    OneSigned others := by
  rcases h with h | h
  · exact .inl fun line hline => h line (hperm.mem_iff.2 hline)
  · exact .inr fun line hline => h line (hperm.mem_iff.2 hline)

/-- Some of the lines come to something between nothing and what all of them come to. -/
theorem OneSigned.between {part : List Line} (h : OneSigned lines) (hsub : part.Sublist lines) :
    0 ≤ worthOf part ∧ worthOf part ≤ worthOf lines ∨
      worthOf lines ≤ worthOf part ∧ worthOf part ≤ 0 := by
  -- The other lines make up the difference, and they have the same sign.
  obtain ⟨rest, hperm⟩ := hsub.exists_perm_append
  have hwhole : worthOf lines = worthOf part + worthOf rest := by
    rw [worthOf_perm hperm, worthOf_append]
  rcases h.perm hperm with h | h
  · have hpart := worthOf_nonneg fun line hline => h line (List.mem_append_left rest hline)
    have hrest := worthOf_nonneg fun line hline => h line (List.mem_append_right part hline)
    exact .inl (by omega)
  · have hpart := worthOf_nonpos fun line hline => h line (List.mem_append_left rest hline)
    have hrest := worthOf_nonpos fun line hline => h line (List.mem_append_right part hline)
    exact .inr (by omega)

/-- Partial sums of lines of one sign lead straight to the sum of all, so that one settles all. -/
theorem OneSigned.summable_iff (h : OneSigned lines) :
    Summable lines ↔ FitsWord (worthOf lines) := by
  constructor
  · intro hsummable
    exact hsummable.fronts lines List.prefix_rfl
  · intro hwhole
    have hnothing : FitsWord 0 := by decide
    have hpart {part : List Line} (hsub : part.Sublist lines) : FitsWord (worthOf part) :=
      hnothing.between hwhole (h.between hsub)
    constructor
    · intro line hline
      have hsingle := hpart (List.singleton_sublist.2 hline)
      rwa [worthOf_cons, worthOf_nil, Int.add_zero] at hsingle
    · intro front hfront
      exact hpart hfront.sublist

/-- Lines of one sign have a total in any order if they have one at all, and always the same. -/
theorem OneSigned.sumOf_perm {others : List Line} (h : OneSigned lines)
    (hperm : lines.Perm others) : sumOf others = sumOf lines := by
  have hworth : worthOf lines = worthOf others := worthOf_perm hperm
  have hsummable : Summable others ↔ Summable lines := by
    rw [h.summable_iff, (h.perm hperm).summable_iff, hworth]
  cases hsum : sumOf lines with
  | ok amount =>
    rw [sumOf_eq_ok_iff] at hsum ⊢
    rwa [hsummable, ← hworth]
  | error cause =>
    rw [sumOf_eq_error_iff] at hsum ⊢
    rwa [hsummable]

/-! ### Lines that are not negative -/

/-- Some of the lines come to no more than all of them. -/
theorem worthOf_le_of_sublist {part : List Line} (h : ∀ line ∈ lines, 0 ≤ line.worth)
    (hsub : part.Sublist lines) : worthOf part ≤ worthOf lines :=
  (hsub.map worth).sum_le_sum (List.forall_mem_map.2 h)

theorem summable_iff_of_nonneg (h : ∀ line ∈ lines, 0 ≤ line.worth) :
    Summable lines ↔ worthOf lines < 2 ^ 63 := by
  have hnonneg := worthOf_nonneg h
  rw [OneSigned.summable_iff (.inl h)]
  constructor
  · intro hwhole
    exact hwhole.2
  · intro hbound
    exact ⟨by omega, hbound⟩

end Line

end Bookshop
