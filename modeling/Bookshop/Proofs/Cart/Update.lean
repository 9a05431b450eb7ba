import Bookshop.Proofs.Cart.Addition

/-!
# Setting a quantity again

What an update gives is decided by the codes of a cart and by the lines that it leads to
(`update_eq`). An earlier update of the same product to a positive quantity changes neither, whether
it took effect or was refused, so it is as if it had not been made (`update_absorbs`).
-/

namespace Bookshop.Cart

variable {cart other : Cart} {code : ProductCode} {quantity : Int64} {lines : List Line}

/-- Valid carts with the same lines are the same: the lines settle the total. -/
theorem Valid.eq_of_lines (hcart : cart.Valid) (hother : other.Valid)
    (h : cart.lines = other.lines) : cart = other := by
  have hcommit := hcart.commit_lines
  rw [h, hother.commit_lines] at hcommit
  exact (Except.ok.inj hcommit).symm

/-! ### The lines that an update leads to -/

/-- The lines with another quantity in the line of a product, or without the line when the quantity
    is not positive. -/
def updated (code : ProductCode) (quantity : Int64) (lines : List Line) : List Line :=
  if 0 < quantity.toInt then withQuantity code quantity lines
  else lines.filter (·.code ≠ code)

theorem filter_code_withQuantity :
    (withQuantity code quantity lines).filter (·.code ≠ code) = lines.filter (·.code ≠ code) := by
  induction lines with
  | nil => rfl
  | cons line lines ih =>
    rw [withQuantity] at ih
    by_cases hcode : line.code = code
    · simpa [withQuantity, hcode] using ih
    · simpa [withQuantity, hcode] using ih

theorem updated_of_absent (h : code ∉ lines.map Line.code) : updated code quantity lines = lines := by
  rw [updated, withQuantity_of_absent quantity h, filter_code_of_absent h, ite_self]

/-- What a product had before does not matter to the lines that an update leads to. -/
theorem updated_withQuantity (first : Int64) :
    updated code quantity (withQuantity code first lines) = updated code quantity lines := by
  simp only [updated, withQuantity_withQuantity, filter_code_withQuantity]

theorem updated_updated : updated code quantity (updated code quantity lines) =
    updated code quantity lines := by
  by_cases hpositive : 0 < quantity.toInt
  · simp only [updated, hpositive, if_true, withQuantity_withQuantity]
  · simp only [updated, hpositive, if_false, List.filter_filter, Bool.and_self]

/-! ### The answer of an update -/

theorem remove_eq (hcart : cart.Valid) :
    cart.remove code =
      if code ∈ cart.lines.map Line.code then
        (commit (cart.lines.filter (·.code ≠ code))).map some
      else .ok none := by
  split
  · next hpresent => rw [remove_of_present hcart hpresent, filter_code_eq_eraseP hcart.distinct]
  · next habsent => exact remove_of_absent habsent

/-- An update is refused beyond the limit, does nothing without a line, and otherwise commits the
    lines that it leads to. -/
theorem update_eq (hcart : cart.Valid) :
    cart.update code quantity =
      if 9999 < quantity.toInt then .error (.quantity (.aboveLimit quantity 9999))
      else if code ∈ cart.lines.map Line.code then
        (commit (updated code quantity cart.lines)).map some
      else .ok none := by
  by_cases hpositive : 0 < quantity.toInt
  · rw [updated, if_pos hpositive]
    split
    · next habove => exact update_of_above habove
    · next hwithin =>
      have hgood : GoodQuantity quantity := ⟨hpositive, by omega⟩
      split
      · next hpresent => exact update_of_present hcart hgood hpresent
      · next habsent => exact update_of_absent hgood habsent
  · rw [updated, if_neg hpositive, if_neg (by omega), update_of_not_positive (by omega)]
    exact remove_eq hcart

/-- The lines after an update that was not refused. -/
theorem Change.apply_update_lines (hcart : cart.Valid) {changed? : Option Cart}
    (h : cart.update code quantity = .ok changed?) :
    ((Change.update code quantity).apply cart).lines = updated code quantity cart.lines := by
  have happly : (Change.update code quantity).apply cart = changed?.getD cart := apply_of_ok h
  rw [happly]
  rw [update_eq hcart] at h
  split at h
  · cases h
  · split at h
    · cases hcommit : commit (updated code quantity cart.lines) with
      | error e =>
        rw [hcommit] at h
        cases h
      | ok changed =>
        rw [hcommit] at h
        cases h
        exact (commit_eq_ok_iff.1 hcommit).1
    · next habsent =>
      cases h
      exact (updated_of_absent habsent).symm

/-- After an update to a positive quantity, refused or not, the lines are what they were but for that
    quantity. -/
theorem Change.apply_update_cases (hcart : cart.Valid) (hpositive : 0 < quantity.toInt) :
    (Change.update code quantity).apply cart = cart ∨
      ((Change.update code quantity).apply cart).lines = withQuantity code quantity cart.lines := by
  cases h : cart.update code quantity with
  | error e => exact .inl (apply_of_error h)
  | ok changed? =>
    right
    rw [apply_update_lines hcart h, updated, if_pos hpositive]

/-- The second of two equal updates finds the lines as it would leave them. -/
theorem Change.apply_update_twice (hcart : cart.Valid) :
    let once := (Change.update code quantity).apply cart
    (Change.update code quantity).apply once = once := by
  intro once
  have honce : once.Valid := apply_valid _ hcart
  cases hfirst : cart.update code quantity with
  | error e =>
    have hsame : once = cart := apply_of_error hfirst
    rw [hsame]
    exact apply_of_error hfirst
  | ok changed? =>
    cases hagain : once.update code quantity with
    | error e => exact apply_of_error hagain
    | ok changed? =>
      apply Valid.eq_of_lines (apply_valid _ honce) honce
      rw [apply_update_lines honce hagain, apply_update_lines hcart hfirst, updated_updated]

/-- **Setting a quantity absorbs earlier settings.** When a product has been updated to a positive
    quantity, whatever the answer was, a second update of it gives the answer that it gives without
    the first one, and it leads to the same cart unless it is refused. An update that is made twice
    leads to the cart that it leads to when it is made once. -/
theorem update_absorbs (cart : Cart) (hcart : cart.Valid) (code : ProductCode)
    (first second : Int64) (hfirst : 1 ≤ first.toInt) :
    let half := (Change.update code first).apply cart
    half.update code second = cart.update code second ∧
      (∀ changed?, cart.update code second = .ok changed? →
        (Change.update code second).apply half = (Change.update code second).apply cart) ∧
      ∀ quantity : Int64,
        let once := (Change.update code quantity).apply cart
        (Change.update code quantity).apply once = once := by
  intro half
  have hhalf : half.Valid := Change.apply_valid _ hcart
  have hlines : half = cart ∨ half.lines = withQuantity code first cart.lines :=
    Change.apply_update_cases hcart hfirst
  have hanswer : half.update code second = cart.update code second := by
    rcases hlines with hsame | hlines
    · rw [hsame]
    · rw [update_eq hhalf, update_eq hcart, hlines, map_code_withQuantity, updated_withQuantity]
  refine ⟨hanswer, ?_, fun quantity => Change.apply_update_twice hcart⟩
  intro changed? hchanged
  apply Valid.eq_of_lines (Change.apply_valid _ hhalf) (Change.apply_valid _ hcart)
  rw [Change.apply_update_lines hcart hchanged,
    Change.apply_update_lines hhalf (hanswer.trans hchanged)]
  rcases hlines with hsame | hlines
  · rw [hsame]
  · rw [hlines, updated_withQuantity]

/-- The refund is set to a quantity whose total cannot be held, the atlas to one beyond the limit and
    to one within it; then each of them is set to three, or removed. -/
theorem update_absorbs_refund :
    let atlas : Line := ⟨⟨"A"⟩, "Atlas", ⟨250⟩, 2⟩
    let refund : Line := ⟨⟨"R"⟩, "Refund", ⟨-1000000000000000000⟩, 1⟩
    let cart : Cart := ⟨[atlas, refund], ⟨-999999999999999500⟩⟩
    let after (change : Change) : Cart := change.apply cart
    cart.Valid ∧ cart.update refund.code 10 = .error .overflow ∧
      (after (.update refund.code 10)).update refund.code 3 =
        .ok (some ⟨[atlas, { refund with quantity := 3 }], ⟨-2999999999999999500⟩⟩) ∧
      cart.update atlas.code 10000 = .error (.quantity (.aboveLimit 10000 9999)) ∧
      (after (.update atlas.code 10000)).update atlas.code 0 = .ok (some ⟨[refund], refund.price⟩) ∧
      (after (.update atlas.code 7)).update atlas.code 0 = .ok (some ⟨[refund], refund.price⟩) := by
  intro atlas refund cart after
  have hmade : ofLines [atlas, refund] = .ok cart := by decide +kernel
  have hcart : cart.Valid := ofLines_valid hmade
  refine ⟨hcart, by decide +kernel, ?_, by decide +kernel, ?_, ?_⟩
  · exact (update_absorbs cart hcart refund.code 10 3 (by decide)).1.trans (by decide +kernel)
  · exact (update_absorbs cart hcart atlas.code 10000 0 (by decide)).1.trans (by decide +kernel)
  · exact (update_absorbs cart hcart atlas.code 7 0 (by decide)).1.trans (by decide +kernel)

end Bookshop.Cart
