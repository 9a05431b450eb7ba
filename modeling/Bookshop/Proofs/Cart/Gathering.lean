import Mathlib.Data.List.Induction
import Bookshop.Proofs.Cart.Addition

/-!
# Additions in any order

When no price is negative and each product has one name and one price, what many additions to an
empty cart come to is counted without their order: all of them take effect just when no product gets
more units than the limit and all together are worth an amount (`exists_addAll_iff`). A cart that
gathers them (`Gathers`) then has one line for each product, so the lines are determined up to their
order (`addAll_perm`). One more addition keeps a cart gathering (`Gathers.add`), and from the empty
cart a run of them does.
-/

namespace Bookshop.Cart

variable {cart : Cart} {code : ProductCode} {name : String} {price : Money}

/-! ### Many additions -/

/-- Units of products, added in order. Each addition is given as the line that it is by itself. -/
def addAll (additions : List Line) (cart : Cart) : Except CartError Cart :=
  additions.foldlM (fun cart line => cart.add line.code line.name line.price line.quantity) cart

/-- Additions of positive quantities at prices that are not negative, in which each product has one
    name and one price. -/
structure Coherent (additions : List Line) : Prop where
  quantities : ∀ line ∈ additions, 1 ≤ line.quantity.toInt
  prices : ∀ line ∈ additions, 0 ≤ line.price.cents.toInt
  alike : ∀ line ∈ additions, ∀ other ∈ additions, line.code = other.code →
    line.name = other.name ∧ line.price = other.price

/-- All the units of a product that are added. -/
def unitsOf (code : ProductCode) (additions : List Line) : Int :=
  ((additions.filter (·.code = code)).map fun line => line.quantity.toInt).sum

/-- No product gets more units than the limit, and all together are worth an amount. -/
structure Fits (additions : List Line) : Prop where
  units : ∀ code, unitsOf code additions ≤ 9999
  worth : Line.worthOf additions < 2 ^ 63

/-- The cart has what was added: as many units of each product, under a name and a price with which
    it was added, and as much worth. -/
structure Gathers (additions : List Line) (cart : Cart) : Prop where
  valid : cart.Valid
  units : ∀ code, cart.quantityOf code = unitsOf code additions
  described : ∀ line ∈ cart.lines, ∃ addition ∈ additions,
    addition.code = line.code ∧ addition.name = line.name ∧ addition.price = line.price
  worth : Line.worthOf cart.lines = Line.worthOf additions

variable {additions others : List Line} {addition : Line}

theorem Coherent.of_subset (h : Coherent additions) (hsubset : others ⊆ additions) :
    Coherent others where
  quantities line hline := h.quantities line (hsubset hline)
  prices line hline := h.prices line (hsubset hline)
  alike line hline other hother := h.alike line (hsubset hline) other (hsubset hother)

theorem Coherent.worth_nonneg (h : Coherent additions) {line : Line} (hline : line ∈ additions) :
    0 ≤ line.worth := by
  have hquantity := h.quantities line hline
  exact Int.mul_nonneg (h.prices line hline) (by omega)

theorem unitsOf_concat (code : ProductCode) :
    unitsOf code (additions ++ [addition]) =
      unitsOf code additions + if addition.code = code then addition.quantity.toInt else 0 := by
  by_cases hcode : addition.code = code
  · simp [unitsOf, hcode]
  · simp [unitsOf, hcode]

theorem worthOf_concat :
    Line.worthOf (additions ++ [addition]) = Line.worthOf additions + addition.worth := by
  rw [Line.worthOf_append, Line.worthOf_cons, Line.worthOf_nil, Int.add_zero]

/-- Another addition fits just when what was there fits and its product and the whole still do. -/
theorem fits_concat_iff (h : Coherent (additions ++ [addition])) :
    Fits (additions ++ [addition]) ↔
      Fits additions ∧ unitsOf addition.code (additions ++ [addition]) ≤ 9999 ∧
        Line.worthOf (additions ++ [addition]) < 2 ^ 63 := by
  have hmem : addition ∈ additions ++ [addition] := by simp
  have hquantity := h.quantities addition hmem
  have hworth := h.worth_nonneg hmem
  constructor
  · intro hfits
    refine ⟨⟨?_, ?_⟩, hfits.units addition.code, hfits.worth⟩
    · intro code
      have hunits := hfits.units code
      rw [unitsOf_concat] at hunits
      split at hunits
      · omega
      · omega
    · have hwhole := hfits.worth
      rw [worthOf_concat] at hwhole
      omega
  · rintro ⟨hfits, hunits, hwhole⟩
    refine ⟨?_, hwhole⟩
    intro code
    by_cases hcode : addition.code = code
    · exact hcode ▸ hunits
    · rw [unitsOf_concat, if_neg hcode, Int.add_zero]
      exact hfits.units code

theorem gathers_empty : Gathers [] empty where
  valid := empty_valid
  units _ := rfl
  described := by simp [empty]
  worth := rfl

theorem HasPlace.worthOf_place {front back : List Line} {line : Line}
    (h : HasPlace cart code name price front line back) (quantity : Int64) :
    Line.worthOf (place code name price quantity cart.lines) = Line.worthOf cart.lines +
      line.price.cents.toInt * (quantity.toInt - cart.quantityOf code) := by
  rw [h.place_eq, ← h.worth_eq, ← h.quantity_eq, Int.mul_sub]
  simp only [Line.worthOf_append, Line.worthOf_cons, Line.worth]
  omega

section Step

variable (h : Coherent (additions ++ [addition])) (hgathers : Gathers additions cart)
include h hgathers

/-- An addition finds its product, if at all, under the name and the price that it has itself. -/
theorem Gathers.exists_place :
    ∃ front line back,
      HasPlace cart addition.code addition.name addition.price front line back ∧
        line.name = addition.name ∧ line.price = addition.price := by
  obtain ⟨front, line, back, hplace⟩ :=
    Cart.exists_place hgathers.valid addition.code addition.name addition.price
  refine ⟨front, line, back, hplace, ?_⟩
  rcases hplace.known with hline | hnew
  · obtain ⟨known, hknown, hcode, hname, hprice⟩ := hgathers.described line hline
    have halike := h.alike known (by simp [hknown]) addition (by simp) (hcode.trans hplace.code_eq)
    rwa [hname, hprice] at halike
  · exact hnew

variable {sum : Int64} (hsum : sum.toInt = cart.quantityOf addition.code + addition.quantity.toInt)
include hsum

theorem Gathers.worthOf_place :
    Line.worthOf (place addition.code addition.name addition.price sum cart.lines) =
      Line.worthOf (additions ++ [addition]) := by
  obtain ⟨front, line, back, hplace, -, hprice⟩ := hgathers.exists_place h
  have hadded : sum.toInt - cart.quantityOf addition.code = addition.quantity.toInt := by omega
  rw [hplace.worthOf_place, hprice, hadded, hgathers.worth, worthOf_concat, Line.worth]

theorem Gathers.of_mem_place {line : Line}
    (hline : line ∈ place addition.code addition.name addition.price sum cart.lines) :
    0 ≤ line.quantity.toInt ∧ ∃ known ∈ additions ++ [addition],
      known.code = line.code ∧ known.name = line.name ∧ known.price = line.price := by
  obtain ⟨front, placed, back, hplace, hname, hprice⟩ := hgathers.exists_place h
  rcases (hplace.mem_place_iff line).1 hline with rfl | ⟨hline, -⟩
  · have hquantity := h.quantities addition (by simp)
    have hnonneg := quantityOf_nonneg hgathers.valid addition.code
    refine ⟨by simp only; omega, addition, by simp, hplace.code_eq.symm, hname.symm, hprice.symm⟩
  · have hquantity := hgathers.valid.quantities line hline
    obtain ⟨known, hknown, hdescribed⟩ := hgathers.described line hline
    exact ⟨by omega, known, by simp [hknown], hdescribed⟩

theorem Gathers.summable_place_iff :
    Line.Summable (place addition.code addition.name addition.price sum cart.lines) ↔
      Line.worthOf (additions ++ [addition]) < 2 ^ 63 := by
  rw [← hgathers.worthOf_place h hsum]
  apply Line.summable_iff_of_nonneg
  intro line hline
  obtain ⟨hquantity, known, hknown, -, -, hprice⟩ := hgathers.of_mem_place h hsum hline
  exact Int.mul_nonneg (hprice ▸ h.prices known hknown) hquantity

end Step

/-- Another addition takes effect just when it still fits. -/
theorem Gathers.exists_add_iff (hgathers : Gathers additions cart)
    (h : Coherent (additions ++ [addition])) :
    (∃ changed, cart.add addition.code addition.name addition.price addition.quantity =
        .ok changed) ↔
      unitsOf addition.code (additions ++ [addition]) ≤ 9999 ∧
        Line.worthOf (additions ++ [addition]) < 2 ^ 63 := by
  have hquantity := h.quantities addition (by simp)
  have hnonneg := quantityOf_nonneg hgathers.valid addition.code
  have hword := addition.quantity.toInt_lt
  simp only [add_eq_ok_iff hgathers.valid, unitsOf_concat, if_true, ← hgathers.units]
  constructor
  · rintro ⟨changed, -, sum, hsum, hwithin, hcommit⟩
    refine ⟨by omega, ?_⟩
    exact (hgathers.summable_place_iff h hsum).1 (commit_eq_ok_iff.1 hcommit).2.1
  · rintro ⟨hwithin, hworth⟩
    obtain ⟨sum, hsum⟩ := exists_word_of_fits
      (n := cart.quantityOf addition.code + addition.quantity.toInt) ⟨by omega, by omega⟩
    obtain ⟨total, -, hcommit⟩ :=
      (commit_leadsTo _).accepted ((hgathers.summable_place_iff h hsum).2 hworth)
    exact ⟨_, by omega, sum, hsum, by omega, hcommit⟩

/-- An addition that takes effect is gathered with those before it. -/
theorem Gathers.add {changed : Cart} (hgathers : Gathers additions cart)
    (h : Coherent (additions ++ [addition]))
    (hadd : cart.add addition.code addition.name addition.price addition.quantity = .ok changed) :
    Gathers (additions ++ [addition]) changed := by
  have hchanged : changed.Valid := add_valid hgathers.valid hadd
  obtain ⟨-, sum, hsum, -, hcommit⟩ := (add_eq_ok_iff hgathers.valid).1 hadd
  obtain ⟨hlines, -, -⟩ := commit_eq_ok_iff.1 hcommit
  refine ⟨hchanged, ?_, ?_, ?_⟩
  · intro code
    rw [quantityOf_placed hgathers.valid hchanged hlines, unitsOf_concat]
    by_cases hcode : code = addition.code
    · rw [if_pos hcode, if_pos hcode.symm, hsum, hcode, hgathers.units]
    · rw [if_neg hcode, if_neg (Ne.symm hcode), Int.add_zero, hgathers.units]
  · intro line hline
    rw [hlines] at hline
    exact (hgathers.of_mem_place h hsum hline).2
  · rw [hlines]
    exact hgathers.worthOf_place h hsum

theorem addAll_concat_eq_ok_iff {start result : Cart} :
    addAll (additions ++ [addition]) start = .ok result ↔
      ∃ before, addAll additions start = .ok before ∧
        before.add addition.code addition.name addition.price addition.quantity = .ok result := by
  simp only [addAll, List.foldlM_append, List.foldlM_cons, List.foldlM_nil, bind_pure]
  constructor
  · intro h
    cases hbefore : additions.foldlM
        (fun cart line => cart.add line.code line.name line.price line.quantity) start with
    | error e =>
      rw [hbefore] at h
      cases h
    | ok before =>
      rw [hbefore] at h
      exact ⟨before, rfl, h⟩
  · rintro ⟨before, hbefore, hadd⟩
    rw [hbefore]
    exact hadd

theorem addAll_gathers (h : Coherent additions) (hcart : addAll additions empty = .ok cart) :
    Gathers additions cart := by
  induction additions using List.reverseRecOn generalizing cart with
  | nil =>
    cases hcart
    exact gathers_empty
  | append_singleton additions addition ih =>
    obtain ⟨before, hbefore, hadd⟩ := addAll_concat_eq_ok_iff.1 hcart
    have hgathers := ih (h.of_subset (List.subset_append_left _ _)) hbefore
    exact hgathers.add h hadd

/-- **When additions succeed.** All additions to an empty cart take effect just when they fit
    together, in whichever order they come. -/
theorem exists_addAll_iff (h : Coherent additions) :
    (∃ cart, addAll additions empty = .ok cart) ↔ Fits additions := by
  induction additions using List.reverseRecOn with
  | nil =>
    refine iff_of_true ⟨empty, rfl⟩ ⟨?_, by decide⟩
    intro code
    simp [unitsOf]
  | append_singleton additions addition ih =>
    have hbefore : Coherent additions := h.of_subset (List.subset_append_left _ _)
    rw [fits_concat_iff h, ← ih hbefore]
    simp only [addAll_concat_eq_ok_iff]
    constructor
    · rintro ⟨cart, before, hrun, hadd⟩
      exact ⟨⟨before, hrun⟩, ((addAll_gathers hbefore hrun).exists_add_iff h).1 ⟨cart, hadd⟩⟩
    · rintro ⟨⟨before, hrun⟩, hfits⟩
      obtain ⟨cart, hadd⟩ := ((addAll_gathers hbefore hrun).exists_add_iff h).2 hfits
      exact ⟨cart, before, hrun, hadd⟩

/-! ### In another order -/

theorem unitsOf_perm (h : additions.Perm others) (code : ProductCode) :
    unitsOf code additions = unitsOf code others := ((h.filter _).map _).sum_eq

theorem fits_perm (h : additions.Perm others) : Fits additions ↔ Fits others := by
  constructor
  · rintro ⟨hunits, hworth⟩
    exact ⟨fun code => unitsOf_perm h code ▸ hunits code, Line.worthOf_perm h ▸ hworth⟩
  · rintro ⟨hunits, hworth⟩
    exact ⟨fun code => unitsOf_perm h.symm code ▸ hunits code, Line.worthOf_perm h.symm ▸ hworth⟩

theorem unitCount_perm {lines others : List Line} (h : lines.Perm others) :
    Line.unitCount lines = Line.unitCount others := by
  apply h.foldl_eq'
  intro line _ other _ count
  rw [Int64.add_assoc, Int64.add_assoc, Int64.add_comm line.quantity]

theorem Gathers.perm (hgathers : Gathers additions cart) (h : additions.Perm others) :
    Gathers others cart where
  valid := hgathers.valid
  units code := (hgathers.units code).trans (unitsOf_perm h code)
  described line hline := by
    obtain ⟨known, hknown, hdescribed⟩ := hgathers.described line hline
    exact ⟨known, h.subset hknown, hdescribed⟩
  worth := hgathers.worth.trans (Line.worthOf_perm h)

/-- Carts that gather the same additions have the same lines. -/
theorem Gathers.mem_of_mem {cart' : Cart} (h : Coherent additions)
    (hgathers : Gathers additions cart) (hgathers' : Gathers additions cart') {line : Line}
    (hline : line ∈ cart.lines) : line ∈ cart'.lines := by
  have hsame : cart'.quantityOf line.code = line.quantity.toInt := by
    rw [hgathers'.units, ← hgathers.units, quantityOf_of_mem hgathers.valid hline]
  -- The other cart has as many units of the product, so it has a line of it, too.
  have hpositive := (hgathers.valid.quantities line hline).1
  have hpresent : line.code ∈ cart'.lines.map Line.code := by
    by_contra habsent
    rw [quantityOf_of_absent habsent] at hsame
    omega
  obtain ⟨line', hline', hcode⟩ := List.mem_map.1 hpresent
  obtain ⟨known, hknown, hcode₁, hname₁, hprice₁⟩ := hgathers.described line hline
  obtain ⟨known', hknown', hcode₂, hname₂, hprice₂⟩ := hgathers'.described line' hline'
  obtain ⟨hname, hprice⟩ :=
    h.alike known hknown known' hknown' (hcode₁.trans (hcode.symm.trans hcode₂.symm))
  rw [← hcode, quantityOf_of_mem hgathers'.valid hline'] at hsame
  have hequal : line' = line := by
    cases line
    cases line'
    rw [Line.mk.injEq]
    exact ⟨hcode, hname₂.symm.trans (hname.symm.trans hname₁),
      hprice₂.symm.trans (hprice.symm.trans hprice₁), Int64.toInt_inj.1 hsame⟩
  exact hequal ▸ hline'

theorem Gathers.lines_perm {cart' : Cart} (h : Coherent additions)
    (hgathers : Gathers additions cart) (hgathers' : Gathers additions cart') :
    cart.lines.Perm cart'.lines := by
  rw [List.perm_ext_iff_of_nodup (hgathers.valid.distinct.of_map _)
    (hgathers'.valid.distinct.of_map _)]
  intro line
  exact ⟨hgathers.mem_of_mem h hgathers', hgathers'.mem_of_mem h hgathers⟩

/-- **The order of additions does not matter.** Additions to an empty cart all take effect in one
    order just when they do in any other, and both times give a cart with the same lines, up to
    their order, the same total and the same count of units. -/
theorem addAll_perm (additions others : List Line) (h : Coherent additions)
    (hperm : additions.Perm others) :
    ((∃ cart, addAll additions empty = .ok cart) ↔ ∃ cart, addAll others empty = .ok cart) ∧
      ∀ cart cart', addAll additions empty = .ok cart → addAll others empty = .ok cart' →
        cart.lines.Perm cart'.lines ∧ cart.total = cart'.total ∧
          cart.unitCount = cart'.unitCount := by
  have h' : Coherent others := h.of_subset hperm.symm.subset
  constructor
  · rw [exists_addAll_iff h, exists_addAll_iff h']
    exact fits_perm hperm
  · intro cart cart' hcart hcart'
    have hgathers := addAll_gathers h hcart
    have hgathers' := (addAll_gathers h' hcart').perm hperm.symm
    have hlines := hgathers.lines_perm h hgathers'
    refine ⟨hlines, Money.eq_of_cents ?_, unitCount_perm hlines⟩
    rw [hgathers.valid.total_eq, hgathers'.valid.total_eq, Line.worthOf_perm hlines]

/-- An atlas and a bible are added twice each, up to the limit of bibles. -/
theorem addAll_perm_repeated :
    let atlas (quantity : Int64) : Line := ⟨⟨"A"⟩, "Atlas", ⟨250⟩, quantity⟩
    let bible (quantity : Int64) : Line := ⟨⟨"B"⟩, "Bible", ⟨100⟩, quantity⟩
    let additions := [atlas 2, bible 9000, atlas 3, bible 999]
    let others := [bible 999, atlas 3, atlas 2, bible 9000]
    let gathered : Cart := ⟨[atlas 5, bible 9999], ⟨1001150⟩⟩
    Coherent additions ∧ additions.Perm others ∧ addAll additions empty = .ok gathered ∧
      (∃ cart, addAll others empty = .ok cart) ∧
      ∀ cart, addAll others empty = .ok cart → gathered.lines.Perm cart.lines ∧
        gathered.total = cart.total ∧ gathered.unitCount = cart.unitCount := by
  intro atlas bible additions others gathered
  have hcoherent : Coherent additions := ⟨by decide, by decide, by decide⟩
  have hperm : additions.Perm others := by decide
  have hrun : addAll additions empty = .ok gathered := by decide +kernel
  obtain ⟨hsuccess, hsame⟩ := addAll_perm additions others hcoherent hperm
  exact ⟨hcoherent, hperm, hrun, hsuccess.1 ⟨_, hrun⟩, fun cart hcart => hsame _ cart hrun hcart⟩

end Bookshop.Cart
