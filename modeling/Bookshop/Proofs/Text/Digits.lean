import Bookshop.Text.Digits
import Mathlib.Algebra.Ring.Nat

/-!
# Digits of numbers

The digits of a number have no leading zero, and there are as many of them as the size of the number
asks for. Reading digits on from a number shifts it by their count.
-/

namespace Bookshop

theorem digits_ne_nil (n : Nat) : digits n ≠ [] := by
  rw [digits]
  split
  · simp
  · simp

/-- The digits of a number start with a zero only if it is zero, and then there are no others. -/
theorem digits_leading (n : Nat) : digits n = [0] ∨ ∃ d ds, digits n = d :: ds ∧ d ≠ 0 := by
  induction n using digits.induct with
  | case1 n h =>
    rw [digits, if_pos h]
    by_cases hn : n = 0
    · exact .inl (by rw [hn])
    · exact .inr ⟨n, [], rfl, hn⟩
  | case2 n h ih =>
    rw [digits, if_neg h]
    rcases ih with ih | ⟨d, ds, ih, hd⟩
    · -- The rest of the number would be zero.
      have hrest := ofDigits_digits (n / 10)
      rw [ih] at hrest
      simp [ofDigits, appendDigits] at hrest
      omega
    · exact .inr ⟨d, ds ++ [n % 10], by rw [ih, List.cons_append], hd⟩

theorem appendDigits_eq (n : Nat) (ds : List Nat) :
    appendDigits n ds = n * 10 ^ ds.length + ofDigits ds := by
  induction ds generalizing n with
  | nil => simp [appendDigits, ofDigits]
  | cons d ds ih =>
    have hn : appendDigits n (d :: ds) = appendDigits (10 * n + d) ds := rfl
    have hzero : ofDigits (d :: ds) = appendDigits d ds := by simp [ofDigits, appendDigits]
    rw [hn, hzero, ih, ih d, List.length_cons, Nat.pow_succ, Nat.add_mul]
    have : 10 * n * 10 ^ ds.length = n * (10 ^ ds.length * 10) := by
      rw [Nat.mul_comm 10 n, Nat.mul_assoc, Nat.mul_comm 10]
    omega

theorem ofDigits_append_zeros (ds : List Nat) (n : Nat) :
    ofDigits (ds ++ List.replicate n 0) = ofDigits ds * 10 ^ n := by
  have hzeros : ofDigits (List.replicate n 0) = 0 := by
    induction n with
    | zero => rfl
    | succ n ih => exact ih
  rw [ofDigits, appendDigits_append, ← ofDigits, appendDigits_eq, hzeros]
  simp

theorem ofDigits_zeros_append (n : Nat) (ds : List Nat) :
    ofDigits (List.replicate n 0 ++ ds) = ofDigits ds := by
  induction n with
  | zero => rfl
  | succ n ih => exact ih

end Bookshop
