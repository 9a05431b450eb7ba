import Bookshop.Proofs.Cart.Atomic
import Bookshop.Proofs.Money.Kept

/-!
# What a cart is kept as

A cart is saved as the document of its lines, and what is read is each line with the price that its
price is kept as. Codes, names and quantities are as they were, so there is only one thing that can
go wrong: the total was checked for the prices before they were saved, and for those that are read
it may be too large. Then the document is no cart, and the saved cart shows as the empty one.

The main statement is `change_shown`: whatever was done before, what a change has returned is shown
afterwards if and only if its lines can still be summed when they are read.
-/

namespace Bookshop

/-! ### Lines -/

namespace Line

/-- The line that a line is when it has been saved and read. -/
def kept (line : Line) : Line := { line with price := line.price.kept }

/-- What a line says besides its price. -/
def item (line : Line) : ProductCode × String × Int64 := (line.code, line.name, line.quantity)

@[simp] theorem map_item_kept (lines : List Line) :
    (lines.map kept).map item = lines.map item := by
  rw [List.map_map]
  rfl

theorem codec_readsAs_kept (line : Line) : codec.ReadsAs line line.kept := by
  have hfields : fields.ReadsAs (line.code, line.name, line.price, line.quantity, ())
      (line.code, line.name, line.price.kept, line.quantity, ()) := by
    refine ⟨?_, ?_, ?_, ?_, trivial⟩
    · exact (ProductCode.codec_readsBack line.code).readsAs
    · exact (Codec.text_readsBack line.name).readsAs
    · exact (Money.codec_readsAs_kept line.price).1
    · exact (Codec.word_readsBack line.quantity).readsAs
  exact Codec.record_readsAs (by decide) hfields rfl

end Line

theorem SavedLines.read_write (lines : List Line) :
    SavedLines.codec.read (SavedLines.codec.write ⟨lines⟩) = .ok ⟨lines.map Line.kept⟩ := by
  have hlines : (Codec.list Line.codec).ReadsAs lines (lines.map Line.kept) :=
    Codec.list_readsAs Line.kept fun line _ => line.codec_readsAs_kept
  have hfields : SavedLines.fields.ReadsAs (lines, ()) (lines.map Line.kept, ()) :=
    ⟨hlines, trivial⟩
  have hdocument : SavedLines.codec.ReadsAs ⟨lines⟩ ⟨lines.map Line.kept⟩ :=
    Codec.record_readsAs (by decide) hfields rfl
  exact hdocument.read_write

/-! ### Carts -/

namespace Cart

/-- The lines of the cart, with the prices that are read, have a total. -/
def Keepable (cart : Cart) : Prop := Line.Summable (cart.lines.map Line.kept)

theorem Orderly.kept {lines : List Line} (h : Orderly lines) : Orderly (lines.map Line.kept) where
  distinct := by
    rw [List.map_map]
    exact h.distinct
  quantities := by
    intro line hline
    obtain ⟨old, hold, rfl⟩ := List.mem_map.1 hline
    exact h.quantities old hold

/-- A saved cart shows with its lines if they have a total, and as the empty cart otherwise. -/
theorem ofEntry_of_valid {cart : Cart} (h : cart.Valid) :
    cart.Keepable ∧ (ofEntry (some (SavedLines.codec.write ⟨cart.lines⟩))).lines =
        cart.lines.map Line.kept ∨
      ¬ cart.Keepable ∧ ofEntry (some (SavedLines.codec.write ⟨cart.lines⟩)) = .empty := by
  have hdefect : defect? [] (cart.lines.map Line.kept) = none :=
    (defect?_eq_none_iff [] _).2 ⟨h.orderly.kept, by simp⟩
  simp only [ofEntry, SavedLines.read_write, ofLines, hdefect]
  cases hcommit : commit (cart.lines.map Line.kept) with
  | ok shown =>
    obtain ⟨hlines, hsummable, -⟩ := commit_eq_ok_iff.1 hcommit
    exact .inl ⟨hsummable, hlines⟩
  | error e =>
    refine .inr ⟨?_, rfl⟩
    intro hsummable
    obtain ⟨total, htotal⟩ := Line.exists_sumOf hsummable
    rw [commit, htotal] at hcommit
    cases hcommit

end Cart

/-! ### Changes -/

namespace SavedCart

variable {σ : Type}

/-- The saved cart is shown as the empty one. -/
def ShowsNothing (saved : SavedCart σ) (state : σ) : Prop := (saved.current state).1 = .empty

/-- The saved cart is shown with the codes, names and quantities of the cart, in the same order. -/
def ShowsItems (saved : SavedCart σ) (cart : Cart) (state : σ) : Prop :=
  (saved.current state).1.lines.map Line.item = cart.lines.map Line.item

end SavedCart

section Serving

variable {σ : Type} {medium : Medium σ} {key : String} {Good : σ → Prop} {entry : σ → Option Bytes}
  {state : σ}

theorem SavedCart.current_serving (hmedium : medium.Serves key Good entry) (hstate : Good state) :
    (⟨medium, key⟩ : SavedCart σ).current state = (.ofEntry (entry state), state) :=
  SavedCart.current_of_get (hmedium.get hstate)

/-- A change reads the entry, and it answers a cart in two ways: nothing was to be changed, or the
    changed cart is saved. -/
theorem SavedCart.change_serving (hmedium : medium.Serves key Good entry) (hstate : Good state)
    (change : Cart.Change) :
    ∃ result after, (⟨medium, key⟩ : SavedCart σ).change change.outcome state = (result, after) ∧
      Good after ∧ ∀ cart, result = .ok cart →
        change.outcome (.ofEntry (entry state)) = .ok none ∧ cart = .ofEntry (entry state) ∧
            entry after = entry state ∨
          change.outcome (.ofEntry (entry state)) = .ok (some cart) ∧
            entry after = some (SavedLines.codec.write ⟨cart.lines⟩) := by
  have hget := hmedium.get hstate
  cases houtcome : change.outcome (.ofEntry (entry state)) with
  | error e =>
    refine ⟨_, state, SavedCart.change_of_error _ hget houtcome, hstate, ?_⟩
    intro cart h
    cases h
  | ok changed? =>
    cases changed? with
    | none =>
      refine ⟨_, state, SavedCart.change_of_none _ hget houtcome, hstate, ?_⟩
      intro cart h
      cases h
      exact .inl ⟨rfl, rfl, rfl⟩
    | some changed =>
      obtain ⟨after, hset, hgood, hentry⟩ :=
        hmedium.set (SavedLines.codec.write ⟨changed.lines⟩) hstate
      refine ⟨.ok changed, after, ?_, hgood, ?_⟩
      · rw [SavedCart.change_of_some _ hget houtcome]
        simp only [SavedCart.keep, SavedCart.save, Medium.save, hset]
      · intro cart h
        cases h
        exact .inr ⟨rfl, hentry⟩

theorem Use.onSaved_add (saved : SavedCart σ) (product : Product) (quantity : Int64) (state : σ) :
    (Use.add product quantity).onSaved saved state =
      (.changed (saved.add product quantity state).1, (saved.add product quantity state).2) := rfl

/-- Every use leads to a good state. -/
theorem Use.onSaved_good (hmedium : medium.Serves key Good entry) (hstate : Good state)
    (use : Use) : Good (use.onSaved ⟨medium, key⟩ state).2 := by
  rcases use.kinds with ⟨change, hchange⟩ | rfl | rfl
  · obtain ⟨result, after, heq, hgood, -⟩ := SavedCart.change_serving hmedium hstate change
    rw [Use.onSaved_change hchange, heq]
    exact hgood
  · obtain ⟨after, hdelete, hgood, -⟩ := hmedium.delete hstate
    simp only [Use.onSaved, SavedCart.discard, hdelete]
    exact hgood
  · simp only [Use.onSaved, SavedCart.current_serving hmedium hstate]
    exact hstate

theorem runAll_good (hmedium : medium.Serves key Good entry) (uses : List Use)
    (hstate : Good state) : Good (runAll (Use.onSaved ⟨medium, key⟩) uses state).2 := by
  induction uses generalizing state with
  | nil => exact hstate
  | cons use uses ih => exact ih (use.onSaved_good hmedium hstate)

/-- The use asks for a change of the cart, and there is nothing to change. -/
def Use.Idle (use : Use) (cart : Cart) : Prop :=
  ∃ change, use.change? = some change ∧ change.outcome cart = .ok none

/-- **What a change returned is shown, if it can be kept.** After any uses of a cart that is saved
    in a medium which serves its key, a change returns a cart. Then the cart that is shown has the
    same codes, names and quantities in the same order if and only if nothing was to be changed or
    the lines, with the prices that are read, have a total; otherwise the empty cart is shown. -/
theorem change_shown (hmedium : medium.Serves key Good entry) (state : σ) (hstate : Good state)
    (uses : List Use) (use : Use) (cart : Cart) (after : σ) :
    let saved : SavedCart σ := ⟨medium, key⟩
    let before := (runAll (Use.onSaved saved) uses state).2
    use.onSaved saved before = (.changed (.ok cart), after) →
    (saved.ShowsItems cart after ↔ use.Idle (.ofEntry (entry before)) ∨ cart.Keepable) ∧
      (saved.ShowsItems cart after ∨ saved.ShowsNothing after) := by
  intro saved before hanswer
  have hbefore : Good before := runAll_good hmedium uses hstate
  rcases use.kinds with ⟨change, hchange⟩ | rfl | rfl
  · obtain ⟨result, after', heq, hafter, hways⟩ :=
      SavedCart.change_serving hmedium hbefore change
    rw [Use.onSaved_change hchange, heq] at hanswer
    obtain ⟨rfl, rfl⟩ : result = .ok cart ∧ after' = after := by
      cases hanswer
      exact ⟨rfl, rfl⟩
    have hshown : (saved.current after').1 = .ofEntry (entry after') := by
      rw [SavedCart.current_serving hmedium hafter]
    unfold SavedCart.ShowsItems SavedCart.ShowsNothing
    rw [hshown]
    rcases hways cart rfl with ⟨hidle, hcart, hentry⟩ | ⟨houtcome, hentry⟩
    · subst hcart
      rw [hentry]
      exact ⟨⟨fun _ => .inl ⟨change, hchange, hidle⟩, fun _ => rfl⟩, .inl rfl⟩
    · have hvalid : cart.Valid := Cart.Change.outcome_valid (Cart.ofEntry_valid _) houtcome
      have hbusy : ¬ use.Idle (.ofEntry (entry before)) := by
        rintro ⟨other, hother, hidle⟩
        rw [hchange] at hother
        cases hother
        rw [houtcome] at hidle
        cases hidle
      rw [hentry]
      rcases Cart.ofEntry_of_valid hvalid with ⟨hkeepable, hlines⟩ | ⟨hlost, hempty⟩
      · rw [hlines, Line.map_item_kept]
        exact ⟨⟨fun _ => .inr hkeepable, fun _ => rfl⟩, .inl rfl⟩
      · rw [hempty]
        refine ⟨⟨?_, ?_⟩, .inr rfl⟩
        · -- Only a cart without lines would be the same, and that can be kept.
          intro hsame
          have hnone : cart.lines = [] := List.map_eq_nil_iff.1 hsame.symm
          apply absurd _ hlost
          rw [Cart.Keepable, hnone]
          exact Cart.empty_valid.summable
        · rintro (hidle | hkeepable)
          · exact absurd hidle hbusy
          · exact absurd hkeepable hlost
  · cases hanswer
  · cases hanswer

end Serving

/-- Units of an atlas are added and then more of them, with a look in between. -/
theorem change_shown_atlas :
    let atlas : Product := ⟨⟨"A"⟩, "Atlas", none, none, ⟨250⟩⟩
    let cart : Cart := ⟨[⟨⟨"A"⟩, "Atlas", ⟨250⟩, 5⟩], ⟨1250⟩⟩
    let saved : SavedCart Memory := ⟨Memory.medium, "cart"⟩
    let before := (runAll (Use.onSaved saved) [.add atlas 2, .look] Table.empty).2
    let after := (saved.add atlas 3 before).2
    (Use.add atlas 3).onSaved saved before = (.changed (.ok cart), after) ∧
      (saved.ShowsItems cart after ↔
        (Use.add atlas 3).Idle (.ofEntry (before.get? "cart")) ∨ cart.Keepable) ∧
      (saved.ShowsItems cart after ∨ saved.ShowsNothing after) := by
  intro atlas cart saved before after
  have hadd : (saved.add atlas 3 before).1 = .ok cart := by decide +kernel
  have hanswer : (Use.add atlas 3).onSaved saved before = (.changed (.ok cart), after) := by
    rw [Use.onSaved_add, hadd]
  exact ⟨hanswer, change_shown (Memory.serves "cart") Table.empty trivial [.add atlas 2, .look]
    (.add atlas 3) cart after hanswer⟩

/-- Two products cost one cent less than half of what an amount can hold. The price of the first is
    kept as half of that, so the cart of both has a total; those that are read have none. -/
theorem change_shown_lost :
    let atlas : Product := ⟨⟨"A"⟩, "Atlas", none, none, ⟨4611686018427387903⟩⟩
    let bible : Product := ⟨⟨"B"⟩, "Bible", none, none, ⟨4611686018427387903⟩⟩
    let saved : SavedCart Memory := ⟨Memory.medium, "cart"⟩
    let first := saved.add atlas 1 Table.empty
    let second := saved.add bible 1 first.2
    (saved.current first.2).1.lines.length = 1 ∧
      second.1 = .ok ⟨[⟨⟨"A"⟩, "Atlas", ⟨4611686018427387904⟩, 1⟩,
        ⟨⟨"B"⟩, "Bible", ⟨4611686018427387903⟩, 1⟩], ⟨9223372036854775807⟩⟩ ∧
      (saved.current second.2).1 = .empty := by
  intro atlas bible saved first second
  refine ⟨?_, ?_, ?_⟩
  · decide +kernel
  · decide +kernel
  · decide +kernel

end Bookshop
