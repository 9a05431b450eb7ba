import Bookshop.Proofs.Cart.Update

/-!
# Shrinking a cart

When no price is negative, calls that take units away are never refused: each partial sum of what is
left is between zero and the total of before, which a word holds. This fails for carts with
refunds, where a total may fit only because of the lines that are taken away.

The step is `shrinks_outcome`. In a run of calls that remove each product once, every one of them takes
effect, in any order, and nothing is left (`shrinking_succeeds`).
-/

namespace Bookshop

/-! ### Counting units -/

namespace Line

/-- How many units lines have together, as an unbounded number. -/
def exactCount (lines : List Line) : Int := (lines.map fun line => line.quantity.toInt).sum

/-- Units are counted in words, so what is counted is the exact number modulo `2 ^ 64`. -/
theorem unitCount_eq (lines : List Line) : unitCount lines = Int64.ofInt (exactCount lines) := by
  have hfrom (start : Int64) : lines.foldl (fun count line => count + line.quantity) start =
      start + Int64.ofInt (exactCount lines) := by
    induction lines generalizing start with
    | nil => simp [exactCount]
    | cons line lines ih =>
      rw [List.foldl_cons, ih]
      simp [exactCount, Int64.ofInt_add, Int64.add_assoc]
  rw [unitCount, hfrom, Int64.zero_add]

theorem toInt_unitCount {lines : List Line} (h : FitsWord (exactCount lines)) :
    (unitCount lines).toInt = exactCount lines := by
  rw [unitCount_eq]
  exact Int64.toInt_ofInt_of_le h.1 h.2

end Line

namespace Cart

variable {cart changed : Cart} {code : ProductCode} {quantity : Int64} {after : List Line}

/-! ### Lines with less -/

/-- The lines come to no more than those of the cart, and none of them is negative. -/
structure Shrunk (cart : Cart) (after : List Line) : Prop where
  prices : ∀ line ∈ after, 0 ≤ line.price.cents.toInt
  quantities : ∀ line ∈ after, 0 ≤ line.quantity.toInt
  worth_le : Line.worthOf after ≤ Line.worthOf cart.lines
  count_le : Line.exactCount after ≤ Line.exactCount cart.lines

/-- The cart comes to no more than another one, and has no more units. The count that is shown is a
    word, so it is not greater either as long as a word holds the number of units of the other cart,
    for which it takes less than `2 ^ 49` lines. -/
structure NotMore (changed cart : Cart) : Prop where
  total_le : changed.total.cents.toInt ≤ cart.total.cents.toInt
  units_le : Line.exactCount changed.lines ≤ Line.exactCount cart.lines
  unitCount_le : FitsWord (Line.exactCount cart.lines) →
    changed.unitCount.toInt ≤ cart.unitCount.toInt

theorem Shrunk.worth_nonneg (h : Shrunk cart after) : ∀ line ∈ after, 0 ≤ line.worth :=
  fun line hline => Int.mul_nonneg (h.prices line hline) (h.quantities line hline)

/-- What is left has a total, which is not greater than before. -/
theorem Shrunk.commit (hcart : cart.Valid) (h : Shrunk cart after) :
    ∃ changed, commit after = .ok changed ∧ changed.lines = after ∧ NotMore changed cart := by
  have hfits := (hcart.fronts _ List.prefix_rfl).2
  have hsummable : Line.Summable after :=
    (Line.summable_iff_of_nonneg h.worth_nonneg).2 (h.worth_le.trans_lt hfits)
  obtain ⟨total, htotal, hcommit⟩ := (commit_leadsTo after).accepted hsummable
  refine ⟨_, hcommit, rfl, ?_, h.count_le, ?_⟩
  · change total.cents.toInt ≤ _
    rw [htotal, hcart.total_eq]
    exact h.worth_le
  · intro hcount
    have hnonneg : 0 ≤ Line.exactCount after := by
      apply List.sum_nonneg
      exact List.forall_mem_map.2 h.quantities
    have hcount' : FitsWord (Line.exactCount after) :=
      ⟨by omega, h.count_le.trans_lt hcount.2⟩
    change (Line.unitCount after).toInt ≤ (Line.unitCount cart.lines).toInt
    rw [Line.toInt_unitCount hcount', Line.toInt_unitCount hcount]
    exact h.count_le

section Prices

variable (hcart : cart.Valid) (hprices : ∀ line ∈ cart.lines, 0 ≤ line.price.cents.toInt)
include hcart hprices

theorem shrunk_filter (keep : Line → Bool) : Shrunk cart (cart.lines.filter keep) := by
  have hquantities : ∀ line ∈ cart.lines, 0 ≤ line.quantity.toInt := by
    intro line hline
    have hlow := (hcart.quantities line hline).1
    omega
  have hsub : (cart.lines.filter keep).Sublist cart.lines := List.filter_sublist
  refine ⟨fun line hline => hprices line (hsub.subset hline),
    fun line hline => hquantities line (hsub.subset hline), ?_, ?_⟩
  · apply Line.worthOf_le_of_sublist _ hsub
    exact fun line hline => Int.mul_nonneg (hprices line hline) (hquantities line hline)
  · apply (hsub.map fun line => line.quantity.toInt).sum_le_sum
    rw [List.forall_mem_map]
    exact hquantities

theorem shrunk_withQuantity {line : Line} (hline : line ∈ cart.lines) (hlow : 1 ≤ quantity.toInt)
    (hhigh : quantity.toInt ≤ line.quantity.toInt) :
    Shrunk cart (withQuantity line.code quantity cart.lines) := by
  let lowered (other : Line) : Line := if other.code = line.code then { other with quantity } else other
  have hlowered : ∀ other ∈ cart.lines, (lowered other).price = other.price ∧
      0 ≤ (lowered other).quantity.toInt ∧
      (lowered other).quantity.toInt ≤ other.quantity.toInt := by
    intro other hother
    by_cases hcode : other.code = line.code
    · -- Codes are distinct, so it is the line itself.
      obtain rfl : other = line := List.inj_on_of_nodup_map hcart.distinct hother hline hcode
      simp only [lowered, if_true]
      exact ⟨trivial, by omega, hhigh⟩
    · have hquantity := (hcart.quantities other hother).1
      simp only [lowered, hcode, if_false]
      exact ⟨trivial, by omega, le_rfl⟩
  change Shrunk cart (cart.lines.map lowered)
  refine ⟨?_, ?_, ?_, ?_⟩
  · rw [List.forall_mem_map]
    intro other hother
    rw [(hlowered other hother).1]
    exact hprices other hother
  · rw [List.forall_mem_map]
    exact fun other hother => (hlowered other hother).2.1
  · rw [Line.worthOf, List.map_map]
    apply List.sum_le_sum
    intro other hother
    obtain ⟨hprice, -, hquantity⟩ := hlowered other hother
    simp only [Function.comp_apply, Line.worth, hprice]
    exact Int.mul_le_mul_of_nonneg_left hquantity (hprices other hother)
  · rw [Line.exactCount, List.map_map]
    apply List.sum_le_sum
    exact fun other hother => (hlowered other hother).2.2

end Prices

/-! ### Calls that take units away -/

/-- The call takes units away from the cart: it removes a product, or it gives the product of a line
    a quantity that is not greater than the one that is there. -/
inductive Change.Shrinks (cart : Cart) : Change → Prop where
  | remove (code : ProductCode) : Shrinks cart (.remove code)
  | empty (code : ProductCode) {quantity : Int64} (hquantity : quantity.toInt ≤ 0) :
      Shrinks cart (.update code quantity)
  | lower {line : Line} (hline : line ∈ cart.lines) {quantity : Int64}
      (hlow : 1 ≤ quantity.toInt) (hhigh : quantity.toInt ≤ line.quantity.toInt) :
      Shrinks cart (.update line.code quantity)

/-- The call removes the product. -/
inductive Change.Removes (code : ProductCode) : Change → Prop where
  | remove : Removes code (.remove code)
  | empty {quantity : Int64} (hquantity : quantity.toInt ≤ 0) : Removes code (.update code quantity)

/-- Calls one after the other, for as long as each of them takes effect. -/
def Change.takeEffect : List Change → Cart → Except CartError (Option Cart)
  | [], cart => .ok (some cart)
  | change :: changes, cart =>
    match change.outcome cart with
    | .ok (some changed) => takeEffect changes changed
    | result => result

theorem NotMore.refl (cart : Cart) : NotMore cart cart := ⟨le_rfl, le_rfl, fun _ => le_rfl⟩

section Prices

variable (hcart : cart.Valid) (hprices : ∀ line ∈ cart.lines, 0 ≤ line.price.cents.toInt)
include hcart hprices

/-- A product that has a line can be removed, and then just its line is gone. -/
theorem remove_succeeds (hmem : code ∈ cart.lines.map Line.code) :
    ∃ changed, cart.remove code = .ok (some changed) ∧
      changed.lines = cart.lines.filter (·.code ≠ code) ∧ NotMore changed cart := by
  obtain ⟨changed, hcommit, hlines, hless⟩ :=
    (shrunk_filter hcart hprices (·.code ≠ code)).commit hcart
  refine ⟨changed, ?_, hlines, hless⟩
  rw [remove_eq hcart, if_pos hmem, hcommit]
  rfl

/-- **One step.** A call that takes units away is not refused, and leaves not more than before. -/
theorem shrinks_outcome {change : Change} (h : change.Shrinks cart) :
    ∃ changed?, change.outcome cart = .ok changed? ∧ NotMore (changed?.getD cart) cart := by
  have hremove (code : ProductCode) :
      ∃ changed?, cart.remove code = .ok changed? ∧ NotMore (changed?.getD cart) cart := by
    by_cases hmem : code ∈ cart.lines.map Line.code
    · obtain ⟨changed, hresult, -, hless⟩ := remove_succeeds hcart hprices hmem
      exact ⟨some changed, hresult, hless⟩
    · exact ⟨none, remove_of_absent hmem, .refl cart⟩
  cases h with
  | remove code => exact hremove code
  | empty code hquantity =>
    rw [Change.outcome, update_of_not_positive hquantity]
    exact hremove code
  | @lower line hline quantity hlow hhigh =>
    have hgood : GoodQuantity quantity := ⟨hlow, hhigh.trans (hcart.quantities line hline).2⟩
    obtain ⟨changed, hcommit, -, hless⟩ :=
      (shrunk_withQuantity hcart hprices hline hlow hhigh).commit hcart
    refine ⟨some changed, ?_, hless⟩
    rw [Change.outcome, update_of_present hcart hgood (List.mem_map_of_mem hline), hcommit]
    rfl

end Prices

theorem Change.Removes.outcome_eq {change : Change} (h : change.Removes code) (cart : Cart) :
    change.outcome cart = cart.remove code := by
  cases h with
  | remove => rfl
  | empty hquantity => exact update_of_not_positive hquantity

/-- Without the line of one of its products a cart has the other codes. -/
theorem perm_codes_filter {codes : List ProductCode} (hcart : cart.Valid)
    (h : (code :: codes).Perm (cart.lines.map Line.code)) :
    codes.Perm ((cart.lines.filter (·.code ≠ code)).map Line.code) := by
  have hrest := h.erase code
  rw [List.erase_cons_head, hcart.distinct.erase_eq_filter, List.filter_map] at hrest
  have hkeep : ∀ line ∈ cart.lines, ((· != code) ∘ Line.code) line = decide (line.code ≠ code) := by
    intro line _
    by_cases heq : line.code = code
    · simp [heq]
    · simp [heq]
  rwa [List.filter_congr hkeep] at hrest

theorem takeEffect_removals {codes : List ProductCode} {changes : List Change} (hcart : cart.Valid)
    (hprices : ∀ line ∈ cart.lines, 0 ≤ line.price.cents.toInt)
    (hcodes : codes.Perm (cart.lines.map Line.code))
    (hchanges : List.Forall₂ Change.Removes codes changes) :
    Change.takeEffect changes cart = .ok (some empty) := by
  induction hchanges generalizing cart with
  | nil =>
    have hnone : cart.lines = [] := List.map_eq_nil_iff.1 hcodes.nil_eq.symm
    rw [Change.takeEffect, hcart.eq_of_lines empty_valid hnone]
  | @cons code change codes changes hchange _ ih =>
    have hmem : code ∈ cart.lines.map Line.code := hcodes.subset List.mem_cons_self
    obtain ⟨changed, hremove, hlines, -⟩ := remove_succeeds hcart hprices hmem
    have houtcome : change.outcome cart = .ok (some changed) := (hchange.outcome_eq cart).trans hremove
    rw [Change.takeEffect, houtcome]
    apply ih (Change.outcome_valid hcart houtcome)
    · rw [hlines]
      exact fun line hline => hprices line (List.mem_filter.1 hline).1
    · rw [hlines]
      exact perm_codes_filter hcart hcodes

/-- **Shrinking a cart never fails.** Of a valid cart in which no price is negative, any product can
    be removed, and the quantity of a line can be lowered: the call is not refused, and it increases
    neither the total nor the number of units. All products of the cart can be removed one after the
    other, in any order, so that every call takes effect, and the empty cart is left. -/
theorem shrinking_succeeds (cart : Cart) (hcart : cart.Valid)
    (hprices : ∀ line ∈ cart.lines, 0 ≤ line.price.cents.toInt) :
    (∀ change : Change, change.Shrinks cart →
      ∃ changed?, change.outcome cart = .ok changed? ∧ NotMore (changed?.getD cart) cart) ∧
    ∀ codes changes, codes.Perm (cart.lines.map Line.code) →
      List.Forall₂ Change.Removes codes changes →
        Change.takeEffect changes cart = .ok (some empty) :=
  ⟨fun _ => shrinks_outcome hcart hprices,
    fun _ _ => takeEffect_removals hcart hprices⟩

/-- A cart whose total is the greatest amount there is, with a free product in it. -/
theorem shrinking_succeeds_full :
    let atlas : Line := ⟨⟨"A"⟩, "Atlas", ⟨4611686018427387903⟩, 2⟩
    let leaflet : Line := ⟨⟨"L"⟩, "Leaflet", ⟨0⟩, 9999⟩
    let bible : Line := ⟨⟨"B"⟩, "Bible", ⟨1⟩, 1⟩
    let cart : Cart := ⟨[atlas, leaflet, bible], ⟨9223372036854775807⟩⟩
    cart.Valid ∧ (∀ line ∈ cart.lines, 0 ≤ line.price.cents.toInt) ∧
      (∃ changed?, (Change.update atlas.code 1).outcome cart = .ok changed? ∧
        NotMore (changed?.getD cart) cart) ∧
      (∃ changed?, (Change.remove ⟨"Z"⟩).outcome cart = .ok changed? ∧
        NotMore (changed?.getD cart) cart) ∧
      Change.takeEffect [.remove leaflet.code, .update bible.code (-1), .update atlas.code 0] cart =
        .ok (some empty) := by
  intro atlas leaflet bible cart
  have hmade : ofLines [atlas, leaflet, bible] = .ok cart := by decide +kernel
  have hcart : cart.Valid := ofLines_valid hmade
  have hprices : ∀ line ∈ cart.lines, 0 ≤ line.price.cents.toInt := by decide
  obtain ⟨hshrinks, hremovals⟩ := shrinking_succeeds cart hcart hprices
  have hcodes : ([leaflet.code, bible.code] ++ [atlas.code]).Perm (cart.lines.map Line.code) :=
    List.perm_append_comm
  have hlower : Change.Shrinks cart (.update atlas.code 1) :=
    .lower List.mem_cons_self (by decide) (by decide)
  refine ⟨hcart, hprices, hshrinks _ hlower, hshrinks _ (.remove ⟨"Z"⟩), hremovals _ _ hcodes ?_⟩
  exact .cons .remove (.cons (.empty (by decide)) (.cons (.empty (by decide)) .nil))

end Cart

end Bookshop
