import Bookshop.Cart.Basic
import Bookshop.Proofs.Cart.Total

/-!
# What holds of every cart

The codes of a cart are distinct, its quantities lie between one and the limit, and its total is the
exact sum of its lines, all of whose partial sums fit a word (`Cart.Valid`). The partial sums have
to be part of it: prices may be negative, so a fitting total alone does not say that the lines can
be added up in order.

Every change that takes effect passes through `Cart.commit`, which settles the total; what is left
of each change is what it does to the codes and the quantities (`Cart.Orderly`). From one step,
`Cart.Change.apply_valid`, every run of changes keeps the invariant, also the runs in which some
changes are refused.
-/

namespace Bookshop.Cart

/-! ### Orderly lines -/

/-- The quantity is one that a line of a cart may have. -/
def GoodQuantity (quantity : Int64) : Prop := 1 ≤ quantity.toInt ∧ quantity.toInt ≤ 9999

/-- Distinct codes and good quantities. -/
structure Orderly (lines : List Line) : Prop where
  distinct : (lines.map Line.code).Nodup
  quantities : ∀ line ∈ lines, GoodQuantity line.quantity

theorem checkQuantity_eq_ok_iff {quantity : Int64} :
    checkQuantity quantity = .ok () ↔ GoodQuantity quantity := by
  unfold checkQuantity GoodQuantity
  simp only [Int64.le_iff_toInt_le, Int64.lt_iff_toInt_lt, show maxQuantity.toInt = 9999 from rfl,
    Int64.toInt_zero]
  constructor
  · intro h
    split at h
    · cases h
    · split at h
      · cases h
      · omega
  · rintro ⟨hlow, hhigh⟩
    rw [if_neg (by omega), if_neg (by omega)]

/-- Lines pass the check of what comes from outside exactly when they are orderly and have none of
    the codes before them. -/
theorem defect?_eq_none_iff (before : List ProductCode) (lines : List Line) :
    defect? before lines = none ↔ Orderly lines ∧ ∀ line ∈ lines, line.code ∉ before := by
  induction lines generalizing before with
  | nil => simp [defect?, Orderly.mk]
  | cons line lines ih =>
    unfold defect?
    cases hcheck : checkQuantity line.quantity with
    | error cause =>
      constructor
      · intro h; cases h
      · rintro ⟨horderly, -⟩
        rw [checkQuantity_eq_ok_iff.2 (horderly.quantities line (by simp))] at hcheck
        cases hcheck
    | ok _ =>
      have hgood : GoodQuantity line.quantity := checkQuantity_eq_ok_iff.1 hcheck
      by_cases hseen : line.code ∈ before
      · simp [hseen]
      · rw [if_neg hseen, ih]
        constructor
        · rintro ⟨horderly, hfresh⟩
          have hnew : line.code ∉ lines.map Line.code := by
            intro hmem
            obtain ⟨other, hother, hcode⟩ := List.mem_map.1 hmem
            exact hfresh other hother (by simp [hcode])
          refine ⟨⟨List.nodup_cons.2 ⟨hnew, horderly.distinct⟩, ?_⟩, ?_⟩
          · intro other hother
            rcases List.mem_cons.1 hother with rfl | hother
            · exact hgood
            · exact horderly.quantities other hother
          · intro other hother
            rcases List.mem_cons.1 hother with rfl | hother
            · exact hseen
            · exact fun hmem => hfresh other hother (List.mem_cons_of_mem _ hmem)
        · rintro ⟨⟨hdistinct, hquantities⟩, hfresh⟩
          obtain ⟨hnew, hdistinct⟩ := List.nodup_cons.1 hdistinct
          refine ⟨⟨hdistinct, fun other hother => hquantities other (by simp [hother])⟩, ?_⟩
          intro other hother hmem
          rcases List.mem_cons.1 hmem with hcode | hmem
          · exact hnew (hcode ▸ List.mem_map_of_mem hother)
          · exact hfresh other (by simp [hother]) hmem

theorem orderly_nil : Orderly [] := ⟨List.nodup_nil, by simp⟩

/-! ### What the changes do to lines -/

@[simp] theorem map_code_setQuantity (code : ProductCode) (quantity : Int64) (lines : List Line) :
    (setQuantity code quantity lines).map Line.code = lines.map Line.code := by
  induction lines with
  | nil => rfl
  | cons line lines ih =>
    unfold setQuantity
    split
    · rfl
    · rw [List.map_cons, ih, List.map_cons]

/-- Setting a quantity leaves every line as it was, up to its quantity. -/
theorem mem_setQuantity {code : ProductCode} {quantity : Int64} {lines : List Line} {line : Line}
    (h : line ∈ setQuantity code quantity lines) :
    ∃ old ∈ lines, line = old ∨ line = { old with quantity } := by
  induction lines with
  | nil => cases h
  | cons first lines ih =>
    unfold setQuantity at h
    split at h
    · rcases List.mem_cons.1 h with rfl | h
      · exact ⟨first, List.mem_cons_self, .inr rfl⟩
      · exact ⟨line, List.mem_cons_of_mem _ h, .inl rfl⟩
    · rcases List.mem_cons.1 h with rfl | h
      · exact ⟨line, List.mem_cons_self, .inl rfl⟩
      · obtain ⟨old, hold, hline⟩ := ih h
        exact ⟨old, List.mem_cons_of_mem _ hold, hline⟩

theorem Orderly.setQuantity {lines : List Line} (h : Orderly lines) (code : ProductCode)
    {quantity : Int64} (hgood : GoodQuantity quantity) :
    Orderly (Cart.setQuantity code quantity lines) := by
  refine ⟨by rw [map_code_setQuantity]; exact h.distinct, ?_⟩
  intro line hline
  obtain ⟨old, hold, rfl | rfl⟩ := mem_setQuantity hline
  · exact h.quantities line hold
  · exact hgood

theorem Orderly.append {lines : List Line} (h : Orderly lines) {line : Line}
    (hnew : ∀ other ∈ lines, other.code ≠ line.code) (hgood : GoodQuantity line.quantity) :
    Orderly (lines ++ [line]) := by
  constructor
  · rw [List.map_append, List.nodup_append]
    refine ⟨h.distinct, by simp, ?_⟩
    intro code hcode other hother
    obtain ⟨old, hold, rfl⟩ := List.mem_map.1 hcode
    rw [List.mem_singleton.1 hother]
    exact hnew old hold
  · intro other hother
    rcases List.mem_append.1 hother with hother | hother
    · exact h.quantities other hother
    · rw [List.mem_singleton.1 hother]; exact hgood

theorem Orderly.filter {lines : List Line} (h : Orderly lines) (keep : Line → Bool) :
    Orderly (lines.filter keep) :=
  ⟨h.distinct.sublist (List.filter_sublist.map Line.code),
    fun line hline => h.quantities line (List.mem_filter.1 hline).1⟩

theorem line?_eq_none_iff {cart : Cart} {code : ProductCode} :
    cart.line? code = none ↔ ∀ line ∈ cart.lines, line.code ≠ code := by
  simp [line?, List.find?_eq_none]

theorem line?_of_absent {cart : Cart} {code : ProductCode} (h : code ∉ cart.lines.map Line.code) :
    cart.line? code = none := by
  rw [line?_eq_none_iff]
  intro line hline heq
  exact h (heq ▸ List.mem_map_of_mem hline)

theorem filter_code_of_absent {code : ProductCode} {lines : List Line}
    (h : code ∉ lines.map Line.code) : lines.filter (·.code ≠ code) = lines := by
  rw [List.filter_eq_self]
  intro line hline
  have hne : line.code ≠ code := by
    rintro rfl
    exact h (List.mem_map_of_mem hline)
  simpa using hne

/-- Without a line of the product there is nothing to remove. -/
theorem remove_of_absent {cart : Cart} {code : ProductCode}
    (h : code ∉ cart.lines.map Line.code) : cart.remove code = .ok none := by
  simp only [remove, filter_code_of_absent h, if_true]

/-! ### The invariant -/

/-- The invariant of carts. -/
structure Valid (cart : Cart) : Prop where
  /-- No two lines have the same code. -/
  distinct : (cart.lines.map Line.code).Nodup
  /-- Every quantity is between one and the limit. -/
  quantities : ∀ line ∈ cart.lines, 1 ≤ line.quantity.toInt ∧ line.quantity.toInt ≤ 9999
  /-- Every line total fits a word. -/
  worths : ∀ line ∈ cart.lines, FitsWord line.worth
  /-- Every partial sum fits a word. -/
  fronts : ∀ front, front <+: cart.lines → FitsWord (Line.worthOf front)
  /-- The total is the exact sum. -/
  total_eq : cart.total.cents.toInt = Line.worthOf cart.lines

theorem Valid.orderly {cart : Cart} (h : cart.Valid) : Orderly cart.lines :=
  ⟨h.distinct, h.quantities⟩

theorem Valid.summable {cart : Cart} (h : cart.Valid) : Line.Summable cart.lines :=
  ⟨h.worths, h.fronts⟩

theorem commit_eq_ok_iff {lines : List Line} {cart : Cart} :
    commit lines = .ok cart ↔
      cart.lines = lines ∧ Line.Summable lines ∧ cart.total.cents.toInt = Line.worthOf lines := by
  unfold commit
  constructor
  · intro h
    split at h
    · cases h
    · next total hsum =>
      cases h
      exact ⟨rfl, Line.sumOf_eq_ok_iff.1 hsum⟩
  · rintro ⟨rfl, hsummable, htotal⟩
    rw [Line.sumOf_eq_ok_iff.2 ⟨hsummable, htotal⟩]

/-- Orderly lines that can be committed make a valid cart. -/
theorem valid_of_commit {lines : List Line} {cart : Cart} (horderly : Orderly lines)
    (h : commit lines = .ok cart) : cart.Valid := by
  obtain ⟨rfl, hsummable, htotal⟩ := commit_eq_ok_iff.1 h
  exact ⟨horderly.distinct, horderly.quantities, hsummable.each, hsummable.fronts, htotal⟩

theorem Valid.commit_lines {cart : Cart} (h : cart.Valid) : commit cart.lines = .ok cart :=
  commit_eq_ok_iff.2 ⟨rfl, h.summable, h.total_eq⟩

/-- A valid cart is what its lines make when they come from outside. -/
theorem Valid.ofLines_lines {cart : Cart} (h : cart.Valid) : ofLines cart.lines = .ok cart := by
  unfold ofLines
  rw [(defect?_eq_none_iff [] cart.lines).2 ⟨h.orderly, by simp⟩]
  exact h.commit_lines

theorem empty_valid : empty.Valid := valid_of_commit orderly_nil rfl

theorem ofLines_valid {lines : List Line} {cart : Cart} (h : ofLines lines = .ok cart) :
    cart.Valid := by
  unfold ofLines at h
  split at h
  · cases h
  · next hdefect => exact valid_of_commit ((defect?_eq_none_iff [] lines).1 hdefect).1 h

/-! ### Changes -/

/-- A call that changes a cart. -/
inductive Change where
  | add (code : ProductCode) (name : String) (price : Money) (quantity : Int64)
  | update (code : ProductCode) (quantity : Int64)
  | remove (code : ProductCode)
deriving DecidableEq, Repr

namespace Change

/-- What the call gives: the changed cart, none when there is nothing to change, or the reason why
    it is refused. -/
def outcome : Change → Cart → Except CartError (Option Cart)
  | .add code name price quantity, cart => (cart.add code name price quantity).map some
  | .update code quantity, cart => cart.update code quantity
  | .remove code, cart => cart.remove code

/-- The cart after the call. A refused call and one with nothing to change leave it as it was. -/
def apply (change : Change) (cart : Cart) : Cart :=
  match change.outcome cart with
  | .ok (some changed) => changed
  | _ => cart

def applyAll (changes : List Change) (cart : Cart) : Cart :=
  changes.foldl (fun cart change => change.apply cart) cart

theorem apply_of_error {change : Change} {cart : Cart} {e : CartError}
    (h : change.outcome cart = .error e) : change.apply cart = cart := by
  rw [apply, h]

theorem apply_of_ok {change : Change} {cart : Cart} {changed? : Option Cart}
    (h : change.outcome cart = .ok changed?) : change.apply cart = changed?.getD cart := by
  rw [apply, h]
  cases changed? with
  | none => rfl
  | some changed => rfl

end Change

/-- All that a call that takes effect can do to the lines: set a quantity, leave lines out, or
    append the line of a product that is added. -/
inductive Edited (lines : List Line) : Change → List Line → Prop where
  | set (change : Change) (code : ProductCode) {quantity : Int64} (hgood : GoodQuantity quantity) :
      Edited lines change (setQuantity code quantity lines)
  | filter (change : Change) (keep : Line → Bool) : Edited lines change (lines.filter keep)
  | append {code : ProductCode} (name : String) (price : Money) {quantity : Int64}
      (hnew : ∀ line ∈ lines, line.code ≠ code) (hgood : GoodQuantity quantity) :
      Edited lines (.add code name price quantity) (lines ++ [⟨code, name, price, quantity⟩])

theorem Edited.orderly {lines after : List Line} {change : Change} (h : Edited lines change after)
    (hlines : Orderly lines) : Orderly after := by
  cases h with
  | set _ code hgood => exact hlines.setQuantity code hgood
  | filter _ keep => exact hlines.filter keep
  | append name price hnew hgood => exact hlines.append hnew hgood

theorem add_edited {cart changed : Cart} {code : ProductCode} {name : String} {price : Money}
    {quantity : Int64} (h : cart.add code name price quantity = .ok changed) :
    ∃ after, Edited cart.lines (.add code name price quantity) after ∧
      commit after = .ok changed := by
  unfold add at h
  split at h
  · cases h
  · split at h
    · split at h
      · cases h
      · -- The code has a line already, whose quantity grows.
        split at h
        · cases h
        · next hcheck => exact ⟨_, .set _ code (checkQuantity_eq_ok_iff.1 hcheck), h⟩
    · next hline =>
      -- The code is new and gets a line at the end.
      split at h
      · cases h
      · next hcheck =>
        have hgood := checkQuantity_eq_ok_iff.1 hcheck
        exact ⟨_, .append name price (line?_eq_none_iff.1 hline) hgood, h⟩

theorem remove_edited {cart changed : Cart} {code : ProductCode} (change : Change)
    (h : cart.remove code = .ok (some changed)) :
    ∃ after, Edited cart.lines change after ∧ commit after = .ok changed := by
  unfold remove at h
  simp only at h
  split at h
  · cases h
  · split at h
    · cases h
    · next hcommit =>
      cases h
      exact ⟨_, .filter change _, hcommit⟩

theorem update_edited {cart changed : Cart} {code : ProductCode} {quantity : Int64}
    (h : cart.update code quantity = .ok (some changed)) :
    ∃ after, Edited cart.lines (.update code quantity) after ∧ commit after = .ok changed := by
  unfold update at h
  split at h
  · exact remove_edited _ h
  · split at h
    · cases h
    · next hcheck =>
      split at h
      · cases h
      · split at h
        · cases h
        · next hcommit =>
          cases h
          exact ⟨_, .set _ code (checkQuantity_eq_ok_iff.1 hcheck), hcommit⟩

namespace Change

/-- A call that takes effect edits the lines and commits them. -/
theorem outcome_edited {change : Change} {cart changed : Cart}
    (h : change.outcome cart = .ok (some changed)) :
    Edited cart.lines change changed.lines ∧ commit changed.lines = .ok changed := by
  have hedited : ∃ after, Edited cart.lines change after ∧ commit after = .ok changed := by
    cases change with
    | add code name price quantity =>
      simp only [outcome] at h
      cases hadd : cart.add code name price quantity with
      | error e => rw [hadd] at h; cases h
      | ok result =>
        rw [hadd] at h
        cases h
        exact add_edited hadd
    | update code quantity => exact update_edited h
    | remove code => exact remove_edited _ h
  obtain ⟨after, hafter, hcommit⟩ := hedited
  obtain ⟨rfl, -, -⟩ := commit_eq_ok_iff.1 hcommit
  exact ⟨hafter, hcommit⟩

/-- A call that takes effect keeps the invariant. -/
theorem outcome_valid {change : Change} {cart changed : Cart} (hcart : cart.Valid)
    (h : change.outcome cart = .ok (some changed)) : changed.Valid := by
  obtain ⟨hedited, hcommit⟩ := outcome_edited h
  exact valid_of_commit (hedited.orderly hcart.orderly) hcommit

/-- One call keeps the invariant, whether it takes effect or not. -/
theorem apply_valid (change : Change) {cart : Cart} (hcart : cart.Valid) :
    (change.apply cart).Valid := by
  unfold apply
  split
  · next houtcome => exact outcome_valid hcart houtcome
  · exact hcart

theorem applyAll_valid (changes : List Change) {cart : Cart} (hcart : cart.Valid) :
    (applyAll changes cart).Valid := by
  induction changes generalizing cart with
  | nil => exact hcart
  | cons change changes ih => exact ih (change.apply_valid hcart)

end Change

/-- **The invariant of carts.** Whatever calls a cart has been through since it was empty or was
    made of lines from outside, refused ones included, it is valid, and its lines make the same cart
    again. -/
theorem reachable_valid (start : Cart)
    (hstart : start = empty ∨ ∃ lines, ofLines lines = .ok start) (changes : List Change) :
    (Change.applyAll changes start).Valid ∧
      ofLines (Change.applyAll changes start).lines = .ok (Change.applyAll changes start) := by
  have hvalid : start.Valid := by
    rcases hstart with rfl | ⟨lines, hlines⟩
    · exact empty_valid
    · exact ofLines_valid hlines
  have hafter := Change.applyAll_valid changes hvalid
  exact ⟨hafter, hafter.ofLines_lines⟩

/-- A cart with a refund among its lines; of the calls the first is refused for its quantity and the
    last for its total. -/
theorem reachable_valid_with_refund :
    let atlas : Line := ⟨⟨"A"⟩, "Atlas", ⟨250⟩, 2⟩
    let refund : Line := ⟨⟨"R"⟩, "Refund", ⟨-600⟩, 1⟩
    let start : Cart := ⟨[atlas, refund], ⟨-100⟩⟩
    let changes : List Change :=
      [.add atlas.code "Atlas" ⟨250⟩ 9998, .update refund.code 0,
        .add ⟨"B"⟩ "Bible" ⟨9223372036854775807⟩ 1]
    ofLines [atlas, refund] = .ok start ∧ Change.applyAll changes start = ⟨[atlas], ⟨500⟩⟩ ∧
      (Change.applyAll changes start).Valid ∧
      ofLines (Change.applyAll changes start).lines = .ok (Change.applyAll changes start) :=
  have hstart : ofLines _ = .ok _ := rfl
  ⟨hstart, by decide, reachable_valid _ (.inr ⟨_, hstart⟩) _⟩

end Bookshop.Cart
