import Bookshop.Proofs.Cart.Invariant
import Mathlib.Data.List.Nodup

/-!
# What changing a quantity gives

A change of a cart is refused for the first reason that applies: the quantity asked for is checked
before the sum with the one that is there, the sum before the limit, and the total comes last. A
change that is not refused leads to definite lines, and to no others. Since codes are distinct, the
first line of a product is its only one, so what a change does to the first is said here of all.

The main statement is `quantity_changes`, which settles the answer of every change of a valid cart.
-/

namespace Bookshop.Cart

/-! ### Lines with another quantity -/

/-- The lines with another quantity in the line of a product. -/
def withQuantity (code : ProductCode) (quantity : Int64) (lines : List Line) : List Line :=
  lines.map fun line => if line.code = code then { line with quantity } else line

/-- The lines with a product in a quantity. The line of the product keeps its place, its name and
    its price; a product without a line gets a new last one. -/
def place (code : ProductCode) (name : String) (price : Money) (quantity : Int64)
    (lines : List Line) : List Line :=
  if code ∈ lines.map Line.code then withQuantity code quantity lines
  else lines ++ [⟨code, name, price, quantity⟩]

/-- The quantity of a product in the cart, which is zero when it has no line. -/
def quantityOf (cart : Cart) (code : ProductCode) : Int :=
  match cart.line? code with
  | some line => line.quantity.toInt
  | none => 0

variable {cart : Cart} {code : ProductCode} {name : String} {price : Money} {quantity : Int64}
  {lines : List Line}

theorem withQuantity_of_absent (quantity : Int64) (h : code ∉ lines.map Line.code) :
    withQuantity code quantity lines = lines := by
  have hall : ∀ line ∈ lines, (if line.code = code then { line with quantity } else line) = line := by
    intro line hline
    rw [if_neg]
    rintro rfl
    exact h (List.mem_map_of_mem hline)
  rw [withQuantity, List.map_congr_left hall, List.map_id']

/-- Among distinct codes the first line of a product is all that there is of it. -/
theorem setQuantity_eq_withQuantity (h : (lines.map Line.code).Nodup) :
    setQuantity code quantity lines = withQuantity code quantity lines := by
  induction lines with
  | nil => rfl
  | cons line lines ih =>
    obtain ⟨hnew, hrest⟩ := List.nodup_cons.1 h
    by_cases hcode : line.code = code
    · subst hcode
      have hlines := withQuantity_of_absent quantity hnew
      rw [withQuantity] at hlines
      simp only [setQuantity, withQuantity, List.map_cons, if_true, hlines]
    · have hlines := ih hrest
      rw [withQuantity] at hlines
      simp only [setQuantity, withQuantity, List.map_cons, hcode, if_false, hlines]

theorem filter_code_eq_eraseP (h : (lines.map Line.code).Nodup) :
    lines.filter (·.code ≠ code) = lines.eraseP (·.code = code) := by
  induction lines with
  | nil => rfl
  | cons line lines ih =>
    obtain ⟨hnew, hrest⟩ := List.nodup_cons.1 h
    by_cases hcode : line.code = code
    · subst hcode
      have hothers : ∀ other ∈ lines, other.code ≠ line.code :=
        fun other hother heq => hnew (heq ▸ List.mem_map_of_mem hother)
      simpa using hothers
    · have hlines := ih hrest
      simpa [hcode] using hlines

/-! ### The quantity that is there -/

theorem line?_of_mem {line : Line} (hcart : cart.Valid) (h : line ∈ cart.lines) :
    cart.line? line.code = some line := by
  cases hfound : cart.line? line.code with
  | none => exact absurd rfl (line?_eq_none_iff.1 hfound line h)
  | some found =>
    have hmem : found ∈ cart.lines := List.mem_of_find?_eq_some hfound
    have hcode : found.code = line.code := by simpa using List.find?_some hfound
    rw [List.inj_on_of_nodup_map hcart.distinct hmem h hcode]

theorem quantityOf_of_absent (h : code ∉ cart.lines.map Line.code) : cart.quantityOf code = 0 := by
  rw [quantityOf, line?_of_absent h]

theorem quantityOf_of_mem {line : Line} (hcart : cart.Valid) (h : line ∈ cart.lines) :
    cart.quantityOf line.code = line.quantity.toInt := by
  rw [quantityOf, line?_of_mem hcart h]

theorem quantityOf_nonneg (hcart : cart.Valid) (code : ProductCode) : 0 ≤ cart.quantityOf code := by
  by_cases hmem : code ∈ cart.lines.map Line.code
  · obtain ⟨line, hline, rfl⟩ := List.mem_map.1 hmem
    rw [quantityOf_of_mem hcart hline]
    have hlow := (hcart.quantities line hline).1
    omega
  · have hzero := quantityOf_of_absent hmem
    omega

/-! ### Adding -/

theorem not_le_zero_of_pos (h : 0 < quantity.toInt) : ¬ quantity ≤ 0 := by
  rw [Int64.le_iff_toInt_le, Int64.toInt_zero]
  omega

theorem checkQuantity_of_above (h : 9999 < quantity.toInt) :
    checkQuantity quantity = .error (.aboveLimit quantity 9999) := by
  unfold checkQuantity
  simp only [Int64.le_iff_toInt_le, Int64.lt_iff_toInt_lt, show maxQuantity.toInt = 9999 from rfl,
    Int64.toInt_zero]
  rw [if_neg (by omega), if_pos h]
  rfl

theorem add_of_not_positive (h : quantity.toInt ≤ 0) :
    cart.add code name price quantity = .error (.quantity (.notPositive quantity)) := by
  have hle : quantity ≤ 0 := Int64.le_iff_toInt_le.2 h
  rw [add, if_pos hle]

theorem add_of_overflow (hcart : cart.Valid) (h : 0 < quantity.toInt)
    (hsum : ¬ FitsWord (cart.quantityOf code + quantity.toInt)) :
    cart.add code name price quantity = .error .overflow := by
  rw [add, if_neg (not_le_zero_of_pos h)]
  by_cases hmem : code ∈ cart.lines.map Line.code
  · obtain ⟨line, hline, rfl⟩ := List.mem_map.1 hmem
    rw [quantityOf_of_mem hcart hline] at hsum
    have hchecked : addChecked line.quantity quantity = none := fit?_eq_none_iff.2 hsum
    simp only [line?_of_mem hcart hline, hchecked]
  · rw [quantityOf_of_absent hmem, Int.zero_add] at hsum
    exact absurd (fitsWord_toInt quantity) hsum

section Sum

variable {sum : Int64} (hcart : cart.Valid) (h : 0 < quantity.toInt)
  (hsum : sum.toInt = cart.quantityOf code + quantity.toInt)
include hcart h hsum

/-- Adding to a line and adding a new one both come to checking the sum and placing it. -/
theorem add_of_sum :
    cart.add code name price quantity =
      ((checkQuantity sum).mapError .quantity).bind fun _ =>
        commit (place code name price sum cart.lines) := by
  rw [add, if_neg (not_le_zero_of_pos h)]
  by_cases hmem : code ∈ cart.lines.map Line.code
  · obtain ⟨line, hline, rfl⟩ := List.mem_map.1 hmem
    rw [quantityOf_of_mem hcart hline] at hsum
    have hchecked : addChecked line.quantity quantity = some sum := addChecked_eq_some_iff.2 hsum
    simp only [line?_of_mem hcart hline, hchecked, place, hmem, if_true,
      setQuantity_eq_withQuantity hcart.distinct]
    cases checkQuantity sum with
    | error cause => rfl
    | ok _ => rfl
  · rw [quantityOf_of_absent hmem, Int.zero_add] at hsum
    obtain rfl : sum = quantity := Int64.toInt_inj.1 hsum
    simp only [line?_of_absent hmem, place, hmem, if_false]
    cases checkQuantity sum with
    | error cause => rfl
    | ok _ => rfl

theorem add_of_above (habove : 9999 < sum.toInt) :
    cart.add code name price quantity = .error (.quantity (.aboveLimit sum 9999)) := by
  rw [add_of_sum hcart h hsum, checkQuantity_of_above habove]
  rfl

theorem add_of_within (hwithin : sum.toInt ≤ 9999) :
    cart.add code name price quantity = commit (place code name price sum cart.lines) := by
  have hnonneg : 0 ≤ cart.quantityOf code := quantityOf_nonneg hcart code
  have hgood : GoodQuantity sum := ⟨by omega, hwithin⟩
  rw [add_of_sum hcart h hsum, checkQuantity_eq_ok_iff.2 hgood]
  rfl

end Sum

/-- Units can be added just when the sum is within the limit and the lines with it have a total. -/
theorem add_eq_ok_iff {changed : Cart} (hcart : cart.Valid) :
    cart.add code name price quantity = .ok changed ↔
      0 < quantity.toInt ∧ ∃ sum : Int64, sum.toInt = cart.quantityOf code + quantity.toInt ∧
        sum.toInt ≤ 9999 ∧ commit (place code name price sum cart.lines) = .ok changed := by
  constructor
  · intro hadd
    by_cases h : 0 < quantity.toInt
    · by_cases hfits : FitsWord (cart.quantityOf code + quantity.toInt)
      · obtain ⟨sum, hsum⟩ := exists_word_of_fits hfits
        by_cases hwithin : sum.toInt ≤ 9999
        · rw [add_of_within hcart h hsum hwithin] at hadd
          exact ⟨h, sum, hsum, hwithin, hadd⟩
        · rw [add_of_above hcart h hsum (by omega)] at hadd
          cases hadd
      · rw [add_of_overflow hcart h hfits] at hadd
        cases hadd
    · rw [add_of_not_positive (by omega)] at hadd
      cases hadd
  · rintro ⟨h, sum, hsum, hwithin, hcommit⟩
    rw [add_of_within hcart h hsum hwithin]
    exact hcommit

/-! ### Updating and removing -/

theorem update_of_not_positive (h : quantity.toInt ≤ 0) :
    cart.update code quantity = cart.remove code := by
  have hle : quantity ≤ 0 := Int64.le_iff_toInt_le.2 h
  rw [update, if_pos hle]

theorem update_of_above (h : 9999 < quantity.toInt) :
    cart.update code quantity = .error (.quantity (.aboveLimit quantity 9999)) := by
  rw [update, if_neg (not_le_zero_of_pos (by omega)), checkQuantity_of_above h]

theorem update_of_absent (h : GoodQuantity quantity) (habsent : code ∉ cart.lines.map Line.code) :
    cart.update code quantity = .ok none := by
  have hpositive : ¬ quantity ≤ 0 := not_le_zero_of_pos h.1
  simp only [update, hpositive, if_false, checkQuantity_eq_ok_iff.2 h, line?_of_absent habsent]

theorem update_of_present (hcart : cart.Valid) (h : GoodQuantity quantity)
    (hpresent : code ∈ cart.lines.map Line.code) :
    cart.update code quantity = (commit (withQuantity code quantity cart.lines)).map some := by
  obtain ⟨line, hline, rfl⟩ := List.mem_map.1 hpresent
  have hpositive : ¬ quantity ≤ 0 := not_le_zero_of_pos h.1
  simp only [update, hpositive, if_false, checkQuantity_eq_ok_iff.2 h, line?_of_mem hcart hline,
    setQuantity_eq_withQuantity hcart.distinct]
  cases commit (withQuantity line.code quantity cart.lines) <;> rfl

theorem remove_of_present (hcart : cart.Valid) (hpresent : code ∈ cart.lines.map Line.code) :
    cart.remove code = (commit (cart.lines.eraseP (·.code = code))).map some := by
  obtain ⟨line, hline, rfl⟩ := List.mem_map.1 hpresent
  have hshorter : (cart.lines.eraseP (·.code = line.code)).length ≠ cart.lines.length := by
    rw [List.length_eraseP_of_mem hline (by simp)]
    have := List.length_pos_of_mem hline
    omega
  simp only [remove, filter_code_eq_eraseP hcart.distinct, hshorter, if_false]
  cases commit (cart.lines.eraseP (·.code = line.code)) <;> rfl

/-! ### The answer of every change -/

/-- The change leads to the lines. With them it gives a cart, if they have a total, and that is
    their exact sum; without a total it is refused. -/
structure LeadsTo {α : Type} (lines : List Line) (answer : Cart → α) (result : Except CartError α) :
    Prop where
  refused : ¬ Line.Summable lines → result = .error .overflow
  accepted : Line.Summable lines → ∃ total : Money,
    total.cents.toInt = Line.worthOf lines ∧ result = .ok (answer ⟨lines, total⟩)

theorem commit_leadsTo (lines : List Line) : LeadsTo lines id (commit lines) where
  refused h := by rw [commit, Line.sumOf_eq_error_iff.2 ⟨h, rfl⟩]
  accepted h := by
    obtain ⟨total, hsum⟩ := Line.exists_sumOf h
    refine ⟨total, (Line.sumOf_eq_ok_iff.1 hsum).2, ?_⟩
    rw [commit, hsum]
    rfl

theorem LeadsTo.map {α β : Type} {answer : Cart → α} {result : Except CartError α}
    (h : LeadsTo lines answer result) (f : α → β) : LeadsTo lines (f ∘ answer) (result.map f) where
  refused hnone := by
    rw [h.refused hnone]
    rfl
  accepted hsummable := by
    obtain ⟨total, htotal, hresult⟩ := h.accepted hsummable
    refine ⟨total, htotal, ?_⟩
    rw [hresult]
    rfl

/-- A change that leads to lines gives the cart that they make. -/
theorem LeadsTo.result_eq {α : Type} {answer : Cart → α} {result : Except CartError α}
    (h : LeadsTo lines answer result) (hcommit : commit lines = .ok cart) :
    result = .ok (answer cart) := by
  obtain ⟨rfl, hsummable, htotal⟩ := commit_eq_ok_iff.1 hcommit
  obtain ⟨total, hexact, hresult⟩ := h.accepted hsummable
  obtain rfl : total = cart.total := Money.eq_of_cents (hexact.trans htotal.symm)
  exact hresult

/-- **What changes of a valid cart give.** To add is refused for a quantity that is not positive,
    then for a sum beyond a word, then for a sum beyond the limit; otherwise it leads to the lines
    with the sum, in the line of the product or in a new last one. To update to a positive quantity
    is refused beyond the limit, for any product; otherwise it leads to the lines with that quantity
    in the line of the product, and there is nothing to change without one. To remove leads to the
    lines without the one of the product, and to update to any other quantity is to remove. A change
    that leads to lines without a total is refused. Whenever a change is refused, or there is nothing
    to change, the cart is afterwards what it was. -/
theorem quantity_changes (cart : Cart) (hcart : cart.Valid) (code : ProductCode) :
    (∀ (name : String) (price : Money) (quantity : Int64),
      let sum := cart.quantityOf code + quantity.toInt
      let result := cart.add code name price quantity
      (quantity.toInt ≤ 0 → result = .error (.quantity (.notPositive quantity))) ∧
      (0 < quantity.toInt → 2 ^ 63 ≤ sum →
        code ∈ cart.lines.map Line.code ∧ result = .error .overflow) ∧
      (0 < quantity.toInt → 9999 < sum → sum < 2 ^ 63 →
        result = .error (.quantity (.aboveLimit (.ofInt sum) 9999))) ∧
      (0 < quantity.toInt → sum ≤ 9999 →
        LeadsTo (place code name price (.ofInt sum) cart.lines) id result)) ∧
    (∀ quantity : Int64,
      let result := cart.update code quantity
      (quantity.toInt ≤ 0 → result = cart.remove code) ∧
      (9999 < quantity.toInt → result = .error (.quantity (.aboveLimit quantity 9999))) ∧
      (1 ≤ quantity.toInt → quantity.toInt ≤ 9999 → code ∉ cart.lines.map Line.code →
        result = .ok none) ∧
      (1 ≤ quantity.toInt → quantity.toInt ≤ 9999 → code ∈ cart.lines.map Line.code →
        LeadsTo (withQuantity code quantity cart.lines) some result)) ∧
    ((code ∉ cart.lines.map Line.code → cart.remove code = .ok none) ∧
      (code ∈ cart.lines.map Line.code →
        LeadsTo (cart.lines.eraseP (·.code = code)) some (cart.remove code))) ∧
    ∀ change : Change, (∀ changed, change.outcome cart ≠ .ok (some changed)) →
      change.apply cart = cart := by
  refine ⟨?_, ?_, ⟨remove_of_absent, ?_⟩, ?_⟩
  · intro name price quantity sum result
    have hnonneg : 0 ≤ cart.quantityOf code := quantityOf_nonneg hcart code
    have hword : quantity.toInt < 2 ^ 63 := quantity.toInt_lt
    refine ⟨add_of_not_positive, ?_, ?_, ?_⟩
    · intro h hsum
      have hlarge : ¬ FitsWord sum := fun hfits => by
        have := hfits.2
        omega
      refine ⟨?_, add_of_overflow hcart h hlarge⟩
      by_contra habsent
      have hzero := quantityOf_of_absent habsent
      omega
    · intro h habove hsum
      have hexact : (Int64.ofInt sum).toInt = sum := Int64.toInt_ofInt_of_le (by omega) hsum
      exact add_of_above hcart h hexact (by omega)
    · intro h hwithin
      have hexact : (Int64.ofInt sum).toInt = sum := Int64.toInt_ofInt_of_le (by omega) (by omega)
      have hresult : result = _ := add_of_within hcart h hexact (by omega)
      rw [hresult]
      exact commit_leadsTo _
  · intro quantity result
    refine ⟨update_of_not_positive, update_of_above, ?_, ?_⟩
    · intro hlow hhigh habsent
      exact update_of_absent ⟨hlow, hhigh⟩ habsent
    · intro hlow hhigh hpresent
      have hresult : result = _ := update_of_present hcart ⟨hlow, hhigh⟩ hpresent
      rw [hresult]
      exact (commit_leadsTo _).map some
  · intro hpresent
    rw [remove_of_present hcart hpresent]
    exact (commit_leadsTo _).map some
  · intro change h
    unfold Change.apply
    split
    · next changed houtcome => exact absurd houtcome (h changed)
    · rfl

/-- A cart with a refund in it. Units of the atlas are added until a sum is beyond the limit and one
    beyond a word, and of the refund up to the limit; two of a product come to more than an amount;
    the refund is updated beyond the limit, and a product without a line within it; the atlas is
    removed. -/
theorem quantity_changes_refund :
    let atlas : Line := ⟨⟨"A"⟩, "Atlas", ⟨250⟩, 2⟩
    let refund : Line := ⟨⟨"R"⟩, "Refund", ⟨-600⟩, 1⟩
    let cart : Cart := ⟨[atlas, refund], ⟨-100⟩⟩
    cart.Valid ∧
      cart.add atlas.code "Globe" ⟨1⟩ 9998 = .error (.quantity (.aboveLimit 10000 9999)) ∧
      cart.add atlas.code "Globe" ⟨1⟩ 9223372036854775807 = .error .overflow ∧
      cart.add refund.code "Globe" ⟨1⟩ 9998 =
        .ok ⟨[atlas, { refund with quantity := 9999 }], ⟨-5998900⟩⟩ ∧
      cart.add ⟨"Z"⟩ "Zodiac" ⟨9223372036854775807⟩ 2 = .error .overflow ∧
      cart.update refund.code 10000 = .error (.quantity (.aboveLimit 10000 9999)) ∧
      cart.update ⟨"Z"⟩ 1 = .ok none ∧
      cart.remove atlas.code = .ok (some ⟨[refund], ⟨-600⟩⟩) := by
  intro atlas refund cart
  have hmade : ofLines [atlas, refund] = .ok cart := by decide +kernel
  have hcart : cart.Valid := ofLines_valid hmade
  obtain ⟨hadd, -, ⟨-, hremove⟩, -⟩ := quantity_changes cart hcart atlas.code
  obtain ⟨hrefund, hupdate, -⟩ := quantity_changes cart hcart refund.code
  obtain ⟨hzodiac, habsent, -⟩ := quantity_changes cart hcart ⟨"Z"⟩
  have hfull : commit (place refund.code "Globe" ⟨1⟩
      (.ofInt (cart.quantityOf refund.code + Int64.toInt 9998)) cart.lines) =
        .ok ⟨[atlas, { refund with quantity := 9999 }], ⟨-5998900⟩⟩ := by decide +kernel
  have hrest : commit (cart.lines.eraseP (·.code = atlas.code)) = .ok ⟨[refund], ⟨-600⟩⟩ := by
    decide +kernel
  have hlarge : ¬ Line.Summable (place ⟨"Z"⟩ "Zodiac" ⟨9223372036854775807⟩
      (.ofInt (cart.quantityOf ⟨"Z"⟩ + Int64.toInt 2)) cart.lines) := by
    intro h
    have hfits := h.each ⟨⟨"Z"⟩, "Zodiac", ⟨9223372036854775807⟩, 2⟩ (by decide +kernel)
    exact absurd hfits (by decide)
  refine ⟨hcart, ?_, ?_, ?_, ?_, ?_, ?_, ?_⟩
  · exact (hadd "Globe" ⟨1⟩ 9998).2.2.1 (by decide) (by decide) (by decide)
  · exact ((hadd "Globe" ⟨1⟩ 9223372036854775807).2.1 (by decide) (by decide)).2
  · exact ((hrefund "Globe" ⟨1⟩ 9998).2.2.2 (by decide) (by decide)).result_eq hfull
  · exact ((hzodiac "Zodiac" ⟨9223372036854775807⟩ 2).2.2.2 (by decide) (by decide)).refused hlarge
  · exact (hupdate 10000).2.1 (by decide)
  · exact (habsent 1).2.2.1 (by decide) (by decide) (by decide)
  · exact (hremove (by decide)).result_eq hrest

end Bookshop.Cart
