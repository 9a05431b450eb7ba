import Bookshop.Checkout.Order
import Bookshop.Proofs.Cart.Sums

/-!
# Totals of order records

The lines of an order record come from the order service and may be anything: products may repeat,
and quantities may be zero or negative, as prices may. The total is computed from them all the same,
and it is never a number that wrapped around.

The main statement is `total_exact_or_refused`, for any lines and so for the records made of them.
-/

namespace Bookshop

/-- **Totals are exact or refused.** Lines have a total exactly when each of them and each of their
    partial sums, in the order in which they stand, fits a word, and then it is their exact sum. If
    they have none, the reason is that it overflows. When no line takes away what another one adds,
    the lines come to the same in any order. The total of a record is that of its lines. -/
theorem total_exact_or_refused (lines : List Line) :
    ((∃ amount, Line.sumOf lines = .ok amount) ↔ Line.Summable lines) ∧
      (∀ amount, Line.sumOf lines = .ok amount → amount.cents.toInt = Line.worthOf lines) ∧
      (¬ Line.Summable lines → Line.sumOf lines = .error .overflow) ∧
      (Line.OneSigned lines → ∀ others, lines.Perm others → Line.sumOf others = Line.sumOf lines) ∧
      ∀ record : OrderRecord, record.lines = lines → record.total = Line.sumOf lines := by
  refine ⟨⟨?_, Line.exists_sumOf⟩, ?_, ?_, ?_, ?_⟩
  · rintro ⟨amount, hamount⟩
    exact (Line.sumOf_eq_ok_iff.1 hamount).1
  · intro amount hamount
    exact (Line.sumOf_eq_ok_iff.1 hamount).2
  · intro hsummable
    exact Line.sumOf_eq_error_iff.2 ⟨hsummable, rfl⟩
  · intro hsign others hperm
    exact hsign.sumOf_perm hperm
  · rintro record rfl
    rfl

/-- Two bibles are taken back, next to a line of none and to a gift. That comes to the least amount
    there is, in one order as in another. -/
theorem total_exact_or_refused_returned :
    let bible (quantity : Int64) : Line := ⟨⟨"B"⟩, "Bible", ⟨4611686018427387904⟩, quantity⟩
    let gift : Line := ⟨⟨"G"⟩, "Gift", ⟨0⟩, 7⟩
    let lines := [bible (-1), gift, bible (-1), bible 0]
    let others := [bible 0, bible (-1), bible (-1), gift]
    Line.OneSigned lines ∧ lines.Perm others ∧ Line.sumOf lines = .ok ⟨Int64.minValue⟩ ∧
      Line.sumOf others = Line.sumOf lines := by
  intro bible gift lines others
  have hsign : Line.OneSigned lines := by decide
  have hperm : lines.Perm others := by decide
  exact ⟨hsign, hperm, by decide, (total_exact_or_refused lines).2.2.2.1 hsign others hperm⟩

-- What is taken back between two bibles makes room for the second one.
example :
    let bible (quantity : Int64) : Line := ⟨⟨"B"⟩, "Bible", ⟨4611686018427387904⟩, quantity⟩
    Line.sumOf [bible 1, bible 1, bible (-1)] = .error .overflow ∧
      Line.sumOf [bible 1, bible (-1), bible 1] = .ok ⟨4611686018427387904⟩ := by
  decide

end Bookshop
