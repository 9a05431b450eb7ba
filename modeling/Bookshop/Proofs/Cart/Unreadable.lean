import Bookshop.Proofs.Cart.Entry
import Bookshop.Proofs.Cart.Quantity
import Bookshop.Proofs.Cart.Saved

/-!
# Entries that are no carts

Whatever bytes are stored under the key, looking at the saved cart shows a valid cart: the one that
the lines in the bytes make, or the empty cart when the bytes are no document of lines or the lines
make no cart. An update or a removal finds nothing to change in the empty cart, so it leaves such
bytes where they are, and an addition goes as it goes where nothing is stored.

All this is settled by what the reading answers, so the main statement, `loading_fails_closed`, is
about any medium; only what an addition writes asks for a medium that serves the key, in which any
access may fail.
-/

namespace Bookshop

namespace Cart

/-- The bytes are a document of lines, and the lines make the cart. -/
def StoredIn (cart : Cart) (bytes : Bytes) : Prop :=
  ∃ document, SavedLines.codec.read bytes = .ok document ∧ ofLines document.lines = .ok cart

variable {bytes : Bytes}

theorem ofEntry_of_storedIn {cart : Cart} (h : cart.StoredIn bytes) :
    ofEntry (some bytes) = cart := by
  obtain ⟨document, hread, hlines⟩ := h
  rw [ofEntry_of_read hread, ofLinesOrEmpty, hlines]

theorem ofEntry_of_not_storedIn (h : ∀ cart : Cart, ¬ cart.StoredIn bytes) :
    ofEntry (some bytes) = .empty := by
  cases hread : SavedLines.codec.read bytes with
  | error e => simp only [ofEntry, hread]
  | ok document =>
    rw [ofEntry_of_read hread]
    cases hlines : ofLines document.lines with
    | error e => rw [ofLinesOrEmpty, hlines]
    | ok cart => exact absurd ⟨document, hread, hlines⟩ (h cart)

/-! ### Changes of the empty cart -/

theorem not_mem_empty (code : ProductCode) : code ∉ empty.lines.map Line.code := List.not_mem_nil

theorem empty_remove (code : ProductCode) : empty.remove code = .ok none :=
  remove_of_absent (not_mem_empty code)

/-- Within the limit there is nothing to update in the empty cart. -/
theorem empty_update (code : ProductCode) {quantity : Int64} (h : quantity.toInt ≤ 9999) :
    empty.update code quantity = .ok none := by
  by_cases hpositive : 0 < quantity.toInt
  · exact update_of_absent ⟨hpositive, h⟩ (not_mem_empty code)
  · rw [update_of_not_positive (by omega)]
    exact empty_remove code

end Cart

namespace SavedCart

variable {σ : Type} {saved : SavedCart σ} {state after : σ}

/-- All ways of looking show the cart, which is a valid one, and leave the medium in the state. -/
structure Shows (saved : SavedCart σ) (state after : σ) (cart : Cart) : Prop where
  valid : cart.Valid
  current : saved.current state = (cart, after)
  total : saved.total state = (cart.total, after)
  unitCount : saved.unitCount state = (cart.unitCount, after)

theorem shows_of_current {cart : Cart} (hcart : cart.Valid)
    (h : saved.current state = (cart, after)) : saved.Shows state after cart where
  valid := hcart
  current := h
  total := by rw [SavedCart.total, h]
  unitCount := by rw [SavedCart.unitCount, h]

section Failing

variable {medium : Medium σ} {key : String} {Good : σ → Prop} {held : σ → Option Bytes}
  {faults : Nat → Option MediumFault} {count : Nat}

/-- An access that does not fail answers what the medium holds. -/
theorem failing_get (hmedium : medium.Serves key Good held) (hstate : Good state)
    (hcount : faults count = none) :
    (medium.failing faults).get key (state, count) = (.ok (held state), state, count + 1) := by
  simp only [Medium.failing, failingAccess, hcount, hmedium.get hstate]

/-- A cart that is kept is written as the document of its lines, unless the access fails, which it
    does wherever the cart is kept. -/
theorem failing_keep (hmedium : medium.Serves key Good held) (faults : Nat → Option MediumFault)
    (count : Nat) (cart : Cart) :
    (∃ e, ∀ state, ((⟨medium.failing faults, key⟩ : SavedCart (σ × Nat)).keep cart
        (state, count)).1 = .error e) ∨
      ∀ state, Good state →
        ((⟨medium.failing faults, key⟩ : SavedCart (σ × Nat)).keep cart (state, count)).1 = .ok cart ∧
        held ((⟨medium.failing faults, key⟩ : SavedCart (σ × Nat)).keep cart (state, count)).2.1 =
          some (SavedLines.codec.write ⟨cart.lines⟩) := by
  cases hfault : faults count with
  | some fault =>
    refine .inl ⟨.storage fault.error, ?_⟩
    intro state
    simp [keep, save, Medium.save, Medium.failing, failingAccess, hfault]
  | none =>
    refine .inr ?_
    intro state hstate
    obtain ⟨after, hset, -, hheld⟩ := hmedium.set (SavedLines.codec.write ⟨cart.lines⟩) hstate
    simp [keep, save, Medium.save, Medium.failing, failingAccess, hfault, hset, hheld]

/-- An addition to bytes that are no cart goes as it does where nothing is stored. -/
theorem add_as_absent (hmedium : medium.Serves key Good held) {blank : σ} (hstate : Good state)
    (hblank : Good blank) {bytes : Bytes} (hheld : held state = some bytes)
    (hnone : held blank = none) (hbytes : ∀ cart : Cart, ¬ cart.StoredIn bytes)
    (hcount : faults count = none) (product : Product) (quantity : Int64) :
    let saved : SavedCart (σ × Nat) := ⟨medium.failing faults, key⟩
    let run := saved.add product quantity (state, count)
    let fresh := saved.add product quantity (blank, count)
    run.1 = fresh.1 ∧ ∀ cart, run.1 = .ok cart →
      held run.2.1 = held fresh.2.1 ∧
        held run.2.1 = some (SavedLines.codec.write ⟨cart.lines⟩) := by
  intro saved run fresh
  have hread := failing_get hmedium hstate hcount
  have hfresh := failing_get hmedium hblank hcount
  rw [hheld] at hread
  rw [hnone] at hfresh
  have hempty : Cart.ofEntry (some bytes) = .empty := Cart.ofEntry_of_not_storedIn hbytes
  cases hadd : Cart.empty.add product.code product.name product.price quantity with
  | error e =>
    have hrun : run = (.error e, state, count + 1) :=
      change_of_error saved hread (by rw [hempty, hadd]; rfl)
    have hfreshRun : fresh = (.error e, blank, count + 1) :=
      change_of_error saved hfresh (by rw [Cart.ofEntry, hadd]; rfl)
    rw [hrun, hfreshRun]
    refine ⟨rfl, ?_⟩
    intro cart h
    cases h
  | ok added =>
    have hrun : run = saved.keep added (state, count + 1) :=
      change_of_some saved hread (by rw [hempty, hadd]; rfl)
    have hfreshRun : fresh = saved.keep added (blank, count + 1) :=
      change_of_some saved hfresh (by rw [Cart.ofEntry, hadd]; rfl)
    rw [hrun, hfreshRun]
    rcases failing_keep hmedium faults (count + 1) added with ⟨e, herror⟩ | hkept
    · rw [herror state, herror blank]
      refine ⟨rfl, ?_⟩
      intro cart h
      cases h
    · obtain ⟨hanswer, hwritten⟩ := hkept state hstate
      obtain ⟨hanswer', hwritten'⟩ := hkept blank hblank
      refine ⟨hanswer.trans hanswer'.symm, ?_⟩
      intro cart h
      rw [hanswer] at h
      cases h
      exact ⟨hwritten.trans hwritten'.symm, hwritten⟩

end Failing

end SavedCart

open SavedCart in
/-- **What is no cart is shown as the empty one, and left alone.** Any bytes are stored under the key.
    When they can be read and a cart is stored in them, that cart is shown; otherwise the empty cart
    is, as it is when the medium fails. All ways of looking agree, the cart is valid, and the medium
    is left as the reading leaves it. When no cart is stored in the bytes, a removal answers the empty
    cart, an update does so within the limit, and the medium is left as the reading leaves it, too.
    To add to such bytes gives what it gives where nothing is stored, whether the writing fails or
    not, and what is stored afterwards is the same. -/
theorem loading_fails_closed {σ : Type} (medium : Medium σ) (key : String) :
    (∀ state after bytes, medium.get key state = (.ok (some bytes), after) →
      let saved : SavedCart σ := ⟨medium, key⟩
      (∀ cart : Cart, cart.StoredIn bytes → saved.Shows state after cart) ∧
      ((∀ cart : Cart, ¬ cart.StoredIn bytes) → saved.Shows state after .empty ∧
        (∀ code, saved.remove code state = (.ok .empty, after)) ∧
        ∀ code quantity,
          (quantity.toInt ≤ 9999 → saved.update code quantity state = (.ok .empty, after)) ∧
          (9999 < quantity.toInt → saved.update code quantity state =
            (.error (.quantity (.aboveLimit quantity 9999)), after)))) ∧
    (∀ state after (fault : MediumFault), medium.get key state = (.error fault.error, after) →
      (⟨medium, key⟩ : SavedCart σ).Shows state after .empty) ∧
    ∀ (Good : σ → Prop) (held : σ → Option Bytes), medium.Serves key Good held →
      ∀ (faults : Nat → Option MediumFault) (count : Nat) (state blank : σ) (bytes : Bytes),
        Good state → held state = some bytes → (∀ cart : Cart, ¬ cart.StoredIn bytes) →
        Good blank → held blank = none → faults count = none →
        ∀ (product : Product) (quantity : Int64),
          let saved : SavedCart (σ × Nat) := ⟨medium.failing faults, key⟩
          let run := saved.add product quantity (state, count)
          let fresh := saved.add product quantity (blank, count)
          run.1 = fresh.1 ∧ ∀ cart, run.1 = .ok cart →
            held run.2.1 = held fresh.2.1 ∧
              held run.2.1 = some (SavedLines.codec.write ⟨cart.lines⟩) := by
  refine ⟨?_, ?_, ?_⟩
  · intro state after bytes hget saved
    have hcurrent : saved.current state = (.ofEntry (some bytes), after) := current_of_get hget
    constructor
    · intro cart hcart
      rw [Cart.ofEntry_of_storedIn hcart] at hcurrent
      obtain ⟨document, -, hlines⟩ := hcart
      exact shows_of_current (Cart.ofLines_valid hlines) hcurrent
    · intro hnone
      have hempty : Cart.ofEntry (some bytes) = .empty := Cart.ofEntry_of_not_storedIn hnone
      have hidle {edit : Cart → Except CartError (Option Cart)} (h : edit .empty = .ok none) :
          saved.change edit state = (.ok .empty, after) := by
        rw [change_of_none saved hget (by rw [hempty]; exact h), hempty]
      rw [hempty] at hcurrent
      refine ⟨shows_of_current Cart.empty_valid hcurrent, ?_, ?_⟩
      · exact fun code => hidle (Cart.empty_remove code)
      · intro code quantity
        refine ⟨fun hwithin => hidle (Cart.empty_update code hwithin), ?_⟩
        intro habove
        exact change_of_error saved hget (Cart.update_of_above habove)
  · intro state after fault hget
    exact shows_of_current Cart.empty_valid (current_of_error hget)
  · intro Good held hmedium faults count state blank bytes hstate hheld hbytes hblank hnone hcount
    exact add_as_absent hmedium hstate hblank hheld hnone hbytes hcount

/-- The line that is stored has no unit. It is shown as the empty cart, as everything is when the
    medium is down, and a copy is added as if nothing were stored. -/
theorem loading_fails_closed_no_unit :
    let atlas : Product := ⟨⟨"A"⟩, "Atlas", none, none, ⟨250⟩⟩
    let bytes := SavedLines.codec.write ⟨[⟨⟨"A"⟩, "Atlas", ⟨250⟩, 0⟩]⟩
    let memory : Memory := Table.empty.insert "cart" bytes
    let saved : SavedCart Memory := ⟨Memory.medium, "cart"⟩
    let down : Nat → Option MediumFault := fun _ => some (.operation "down")
    let savedDown : SavedCart (Memory × Nat) := ⟨Memory.medium.failing down, "cart"⟩
    let savedUp : SavedCart (Memory × Nat) := ⟨Memory.medium.failing fun _ => none, "cart"⟩
    let run := savedUp.add atlas 1 (memory, 0)
    let fresh := savedUp.add atlas 1 (Table.empty, 0)
    (∀ cart : Cart, ¬ cart.StoredIn bytes) ∧ saved.Shows memory memory .empty ∧
      saved.update ⟨"A"⟩ 5 memory = (.ok .empty, memory) ∧
      savedDown.Shows (memory, 0) (memory, 1) .empty ∧
      fresh.1 = .ok ⟨[⟨⟨"A"⟩, "Atlas", ⟨250⟩, 1⟩], ⟨250⟩⟩ ∧ run.1 = fresh.1 ∧
      run.2.1.get? "cart" = fresh.2.1.get? "cart" := by
  intro atlas bytes memory saved down savedDown savedUp run fresh
  have hamounts : ∀ line ∈ [(⟨⟨"A"⟩, "Atlas", ⟨250⟩, 0⟩ : Line)], line.price.InRange := by decide
  have hread := (SavedLines.codec_readsBack hamounts).read_write
  have hbytes : ∀ cart : Cart, ¬ cart.StoredIn bytes := by
    rintro cart ⟨document, hdocument, hlines⟩
    cases hread.symm.trans hdocument
    cases hlines
  clear_value bytes
  obtain ⟨hlook, -, hadd⟩ := loading_fails_closed Memory.medium "cart"
  obtain ⟨hshown, -, hupdate⟩ := (hlook memory memory bytes rfl).2 hbytes
  have hdown := (loading_fails_closed (Memory.medium.failing down) "cart").2.1 (memory, 0)
    (memory, 1) (.operation "down") rfl
  have hheld : memory.get? "cart" = some bytes := Table.get?_insert_self Table.empty "cart" bytes
  have hnone : (Table.empty : Memory).get? "cart" = none := Table.get?_empty "cart"
  obtain ⟨hanswer, hwritten⟩ := hadd _ _ (Memory.serves "cart") (fun _ => none) 0 memory
    Table.empty bytes trivial hheld hbytes trivial hnone rfl atlas 1
  have hfresh : fresh.1 = .ok ⟨[⟨⟨"A"⟩, "Atlas", ⟨250⟩, 1⟩], ⟨250⟩⟩ := by decide +kernel
  have hsame := (hwritten _ (hanswer.trans hfresh)).1
  have hwithin : (5 : Int64).toInt ≤ 9999 := by decide
  refine ⟨hbytes, hshown, (hupdate ⟨"A"⟩ 5).1 hwithin, hdown, hfresh, hanswer, ?_⟩
  simp only [run, fresh, savedUp]
  exact hsame

end Bookshop
