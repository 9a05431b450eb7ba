import Bookshop.Proofs.Cart.Quantity
import Bookshop.Proofs.Cart.Sums

/-!
# Additions in two steps

What an addition does depends on one line and the others (`HasPlace`): the line of the product, or
a new last one that so far counts no unit. A second addition to the product finds the line of the
first, so both come to placing one sum (`add_added_iff`). Half-way there is a total whenever there
is one at the end, since every partial sum then lies between the one before and the one after.
-/

namespace Bookshop.Cart

variable {cart : Cart} {code : ProductCode} {name : String} {price : Money} {quantity : Int64}
  {lines : List Line}

/-! ### The place of a product -/

@[simp] theorem map_code_withQuantity :
    (withQuantity code quantity lines).map Line.code = lines.map Line.code := by
  rw [withQuantity, List.map_map]
  apply List.map_congr_left
  intro line _
  simp only [Function.comp_apply]
  split
  · rfl
  · rfl

@[simp] theorem withQuantity_append (lines others : List Line) :
    withQuantity code quantity (lines ++ others) =
      withQuantity code quantity lines ++ withQuantity code quantity others :=
  List.map_append

@[simp] theorem withQuantity_cons_self (line : Line) :
    withQuantity line.code quantity (line :: lines) =
      { line with quantity } :: withQuantity line.code quantity lines := by
  rw [withQuantity, List.map_cons, if_pos rfl, withQuantity]

@[simp] theorem withQuantity_withQuantity (other : Int64) :
    withQuantity code other (withQuantity code quantity lines) = withQuantity code other lines := by
  rw [withQuantity, withQuantity, withQuantity, List.map_map]
  apply List.map_congr_left
  intro line _
  by_cases hcode : line.code = code
  · simp only [Function.comp_apply, hcode, if_true]
  · simp only [Function.comp_apply, hcode, if_false]

/-- A product that is placed again keeps the name and the price of the first time. -/
theorem place_place (other : Int64) (name' : String) (price' : Money) :
    place code name' price' other (place code name price quantity lines) =
      place code name price other lines := by
  by_cases hmem : code ∈ lines.map Line.code
  · simp only [place, hmem, if_true, map_code_withQuantity, withQuantity_withQuantity]
  · have hnew : code ∈ (lines ++ [Line.mk code name price quantity]).map Line.code := by simp
    simp only [place, hmem, if_false, hnew, if_true, withQuantity_append,
      withQuantity_of_absent other hmem]
    simp only [withQuantity, List.map_cons, List.map_nil, if_true]

/-- The line of a product, among the others. A product without a line has its place at the end,
    with no unit so far. -/
structure HasPlace (cart : Cart) (code : ProductCode) (name : String) (price : Money)
    (front : List Line) (line : Line) (back : List Line) : Prop where
  place_eq : ∀ quantity,
    place code name price quantity cart.lines = front ++ { line with quantity } :: back
  code_eq : line.code = code
  /-- The name and the price are those of the line that is there, if there is one. -/
  known : line ∈ cart.lines ∨ line.name = name ∧ line.price = price
  quantity_eq : line.quantity.toInt = cart.quantityOf code
  mem_others_iff : ∀ other, other ∈ front ++ back ↔ other ∈ cart.lines ∧ other.code ≠ code
  summable : Line.Summable (front ++ line :: back)
  worth_eq : Line.worthOf (front ++ line :: back) = Line.worthOf cart.lines

theorem hasPlace_of_mem {front back : List Line} {line : Line} (hcart : cart.Valid)
    (h : cart.lines = front ++ line :: back) (name : String) (price : Money) :
    HasPlace cart line.code name price front line back := by
  have hline : line ∈ cart.lines := by simp [h]
  have hpresent : line.code ∈ cart.lines.map Line.code := List.mem_map_of_mem hline
  have hdistinct : ((front ++ line :: back).map Line.code).Nodup := h ▸ hcart.distinct
  rw [List.map_append, List.map_cons, List.nodup_middle, List.nodup_cons, ← List.map_append]
    at hdistinct
  have hothers : ∀ other ∈ front ++ back, other.code ≠ line.code :=
    fun other hother hcode => hdistinct.1 (hcode ▸ List.mem_map_of_mem hother)
  refine ⟨?_, rfl, .inl hline, (quantityOf_of_mem hcart hline).symm, ?_, h ▸ hcart.summable,
    by rw [h]⟩
  · intro quantity
    rw [List.map_append, List.mem_append, not_or] at hdistinct
    obtain ⟨⟨hfront, hback⟩, -⟩ := hdistinct
    rw [place, if_pos hpresent, h, withQuantity_append, withQuantity_of_absent quantity hfront,
      withQuantity_cons_self, withQuantity_of_absent quantity hback]
  · intro other
    rw [h]
    constructor
    · intro hother
      refine ⟨?_, hothers other hother⟩
      rw [List.mem_append] at hother
      simp only [List.mem_append, List.mem_cons]
      tauto
    · rintro ⟨hother, hcode⟩
      have hne : other ≠ line := fun heq => hcode (heq ▸ rfl)
      simpa [hne] using hother

theorem hasPlace_of_absent (hcart : cart.Valid) (h : code ∉ cart.lines.map Line.code)
    (name : String) (price : Money) :
    HasPlace cart code name price cart.lines ⟨code, name, price, 0⟩ [] := by
  have hworth : Line.worth ⟨code, name, price, 0⟩ = 0 := by
    simp only [Line.worth, Int64.toInt_zero, Int.mul_zero]
  refine ⟨?_, rfl, .inr ⟨rfl, rfl⟩, ?_, ?_, ?_, ?_⟩
  · intro quantity
    rw [place, if_neg h]
  · rw [quantityOf_of_absent h]
    exact Int64.toInt_zero
  · intro other
    rw [List.append_nil]
    constructor
    · intro hother
      exact ⟨hother, fun hcode => h (hcode ▸ List.mem_map_of_mem hother)⟩
    · exact And.left
  · refine Line.summable_around_iff.2 ⟨hcart.summable, ?_, by simp, ?_⟩
    · rw [hworth]
      decide
    · intro part hpart
      rw [List.prefix_nil.1 hpart, hworth, Line.worthOf_nil, Int.add_zero, Int.add_zero]
      exact hcart.fronts _ List.prefix_rfl
  · rw [Line.worthOf_append, Line.worthOf_cons, hworth, Line.worthOf_nil, Int.add_zero,
      Int.add_zero]

theorem exists_place (hcart : cart.Valid) (code : ProductCode) (name : String) (price : Money) :
    ∃ front line back, HasPlace cart code name price front line back := by
  by_cases hmem : code ∈ cart.lines.map Line.code
  · obtain ⟨line, hline, rfl⟩ := List.mem_map.1 hmem
    obtain ⟨front, back, hlines⟩ := List.append_of_mem hline
    exact ⟨front, line, back, hasPlace_of_mem hcart hlines name price⟩
  · exact ⟨cart.lines, _, [], hasPlace_of_absent hcart hmem name price⟩

theorem HasPlace.mem_place_iff {front back : List Line} {line : Line}
    (h : HasPlace cart code name price front line back) (other : Line) :
    other ∈ place code name price quantity cart.lines ↔
      other = { line with quantity } ∨ other ∈ cart.lines ∧ other.code ≠ code := by
  rw [h.place_eq, ← h.mem_others_iff]
  simp only [List.mem_append, List.mem_cons]
  tauto

/-- In the cart with a product placed in a quantity, only that product has another quantity. -/
theorem quantityOf_placed {changed : Cart} (hcart : cart.Valid) (hchanged : changed.Valid)
    (h : changed.lines = place code name price quantity cart.lines) (other : ProductCode) :
    changed.quantityOf other = if other = code then quantity.toInt else cart.quantityOf other := by
  obtain ⟨front, line, back, hplace⟩ := exists_place hcart code name price
  have hmem (l : Line) : l ∈ changed.lines ↔ _ := h ▸ hplace.mem_place_iff l
  split
  · next hcode =>
    have hline := quantityOf_of_mem hchanged ((hmem _).2 (.inl rfl))
    rw [hcode]
    rwa [hplace.code_eq] at hline
  · next hcode =>
    by_cases hpresent : other ∈ cart.lines.map Line.code
    · obtain ⟨l, hl, rfl⟩ := List.mem_map.1 hpresent
      rw [quantityOf_of_mem hcart hl, quantityOf_of_mem hchanged ((hmem l).2 (.inr ⟨hl, hcode⟩))]
    · have habsent : other ∉ changed.lines.map Line.code := by
        intro hchanged
        obtain ⟨l, hl, rfl⟩ := List.mem_map.1 hchanged
        rcases (hmem l).1 hl with rfl | ⟨hl, -⟩
        · exact hcode hplace.code_eq
        · exact hpresent (List.mem_map_of_mem hl)
      rw [quantityOf_of_absent hpresent, quantityOf_of_absent habsent]

/-! ### Two additions -/

theorem add_valid {changed : Cart} (hcart : cart.Valid)
    (h : cart.add code name price quantity = .ok changed) : changed.Valid := by
  obtain ⟨lines, hedited, hcommit⟩ := add_edited h
  exact valid_of_commit (hedited.orderly hcart.orderly) hcommit

/-- What is added to the result of an addition to the same product is placed in the cart as it was
    before both. -/
theorem add_added_iff {half result : Cart} {first second : Int64} (name' : String) (price' : Money)
    (hcart : cart.Valid) (h : cart.add code name price first = .ok half) :
    half.add code name' price' second = .ok result ↔
      0 < second.toInt ∧ ∃ sum : Int64,
        sum.toInt = cart.quantityOf code + first.toInt + second.toInt ∧ sum.toInt ≤ 9999 ∧
          commit (place code name price sum cart.lines) = .ok result := by
  have hhalf : half.Valid := add_valid hcart h
  obtain ⟨-, sum, hsum, -, hcommit⟩ := (add_eq_ok_iff hcart).1 h
  obtain ⟨hlines, -, -⟩ := commit_eq_ok_iff.1 hcommit
  rw [add_eq_ok_iff hhalf, quantityOf_placed hcart hhalf hlines, if_pos rfl, hsum, hlines]
  simp only [place_place]

/-- **Adding in two steps is adding at once.** To add some units and then more of them succeeds with
    a cart exactly when to add all of them does, whatever the name and the price are that come with
    the second addition. -/
theorem add_in_two_steps (cart : Cart) (hcart : cart.Valid) (code : ProductCode)
    (name name' : String) (price price' : Money) (first second both : Int64)
    (hfirst : 1 ≤ first.toInt) (hsecond : 1 ≤ second.toInt)
    (hboth : both.toInt = first.toInt + second.toInt) (result : Cart) :
    (∃ half, cart.add code name price first = .ok half ∧
        half.add code name' price' second = .ok result) ↔
      cart.add code name price both = .ok result := by
  rw [add_eq_ok_iff hcart]
  constructor
  · rintro ⟨half, hhalf, hresult⟩
    obtain ⟨-, sum, hsum, hwithin, hcommit⟩ := (add_added_iff name' price' hcart hhalf).1 hresult
    exact ⟨by omega, sum, by omega, hwithin, hcommit⟩
  · rintro ⟨-, sum, hsum, hwithin, hcommit⟩
    -- Half-way the quantity lies between the one that is there and the sum.
    have hnonneg : 0 ≤ cart.quantityOf code := quantityOf_nonneg hcart code
    obtain ⟨middle, hmiddle⟩ :=
      exists_word_of_fits (n := cart.quantityOf code + first.toInt) ⟨by omega, by omega⟩
    obtain ⟨front, line, back, hplace⟩ := exists_place hcart code name price
    have hlarge : Line.Summable (front ++ { line with quantity := sum } :: back) := by
      rw [← hplace.place_eq]
      exact (commit_eq_ok_iff.1 hcommit).2.1
    have hquantity := hplace.quantity_eq
    have hsummable : Line.Summable (place code name price middle cart.lines) := by
      rw [hplace.place_eq]
      exact Line.Summable.between (by omega) (by omega) hplace.summable hlarge
    obtain ⟨total, -, hhalf⟩ := (commit_leadsTo _).accepted hsummable
    have hadd : cart.add code name price first = .ok _ :=
      (add_eq_ok_iff hcart).2 ⟨by omega, middle, hmiddle, by omega, hhalf⟩
    refine ⟨_, hadd, (add_added_iff name' price' hcart hadd).2 ⟨by omega, sum, by omega, hwithin, ?_⟩⟩
    exact hcommit

/-- Refunds are added to the line of a refund, and then the most copies of a product that has no line
    yet. -/
theorem add_in_two_steps_refund :
    let atlas : Line := ⟨⟨"A"⟩, "Atlas", ⟨250⟩, 2⟩
    let refund : Line := ⟨⟨"R"⟩, "Refund", ⟨-600⟩, 1⟩
    let cart : Cart := ⟨[atlas, refund], ⟨-100⟩⟩
    cart.Valid ∧
      (∃ half, cart.add refund.code "Refund" ⟨-600⟩ 3 = .ok half ∧
        half.add refund.code "Voucher" ⟨1⟩ 4 =
          .ok ⟨[atlas, { refund with quantity := 8 }], ⟨-4300⟩⟩) ∧
      ∃ half, cart.add ⟨"B"⟩ "Bible" ⟨100⟩ 9000 = .ok half ∧
        half.add ⟨"B"⟩ "Bible" ⟨100⟩ 999 =
          .ok ⟨[atlas, refund, ⟨⟨"B"⟩, "Bible", ⟨100⟩, 9999⟩], ⟨999800⟩⟩ := by
  intro atlas refund cart
  have hmade : ofLines [atlas, refund] = .ok cart := by decide +kernel
  have hcart : cart.Valid := ofLines_valid hmade
  refine ⟨hcart, ?_, ?_⟩
  · exact (add_in_two_steps cart hcart refund.code "Refund" "Voucher" ⟨-600⟩ ⟨1⟩ 3 4 7 (by decide)
      (by decide) (by decide) _).2 (by decide +kernel)
  · exact (add_in_two_steps cart hcart ⟨"B"⟩ "Bible" "Bible" ⟨100⟩ ⟨100⟩ 9000 999 9999 (by decide)
      (by decide) (by decide) _).2 (by decide +kernel)

end Bookshop.Cart
