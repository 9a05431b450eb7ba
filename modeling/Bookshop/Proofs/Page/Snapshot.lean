import Mathlib.Data.List.Induction
import Bookshop.Proofs.Page.Call
import Bookshop.Proofs.Storage.FileSystem
import Bookshop.Shop

/-!
# The snapshot of a cart page

Badge and snapshot are read one after the other, and what is read may be a failure. As long as
readings do not disturb each other, which they do at none of the places that a shop keeps its cart,
both come from one cart: the one that is shown when the saved cart is looked at again. Only the
first opening and the changes of a quantity read them; every other call leaves them.

The main statement is `snapshot_fresh`, about every run of calls to a page while others change what
is stored.
-/

namespace Bookshop

variable {σ τ : Type}

/-! ### Steady saved carts -/

theorem Place.medium_steady (place : Place) (key : String) : place.medium.Steady key := by
  intro premises
  cases place with
  | memory => rfl
  | folder location =>
    simp only [Place.medium]
    exact FileSystem.mediumAt_steady location key premises.disk

/-- The cart of every shop is saved in a steady medium, also when accesses fail. -/
theorem Shop.saved_steady (shop : Shop) :
    shop.saved.medium.Steady shop.saved.key ∧
      shop.saved.medium.withFaults.Steady shop.saved.key := by
  have hsteady := shop.place.medium_steady shop.cartKey
  exact ⟨hsteady, hsteady.withFaults⟩

/-- Looked at again, a saved cart shows what it showed. -/
theorem SavedCart.current_again {saved : SavedCart σ} (h : saved.medium.Steady saved.key)
    (state : σ) : (saved.current (saved.current state).2).1 = (saved.current state).1 := by
  simp only [current_eq_ofAnswer, h state]

namespace CartPage

/-! ### Refreshing -/

/-- The page shows what is saved, and all that was shown since is one badge with the units of
    that. -/
structure Refreshed (saved : SavedCart σ) (around : Surroundings σ τ)
    (next : CartPage × Surroundings σ τ) : Prop where
  cart_eq : next.1.cart = (saved.current next.2.storage).1
  events_eq : next.2.events = around.events ++ [.badge next.1.cart.unitCount]

/-- The first opening shows the badge before it takes the snapshot. -/
theorem init_refreshed {saved : SavedCart σ} (hsteady : saved.medium.Steady saved.key)
    {page : CartPage} (hopened : page.opened = false) (around : Surroundings σ τ) :
    Refreshed saved around (page.init saved around) := by
  have hbadge := SavedCart.current_again hsteady around.storage
  have hlater := SavedCart.current_again hsteady (saved.current around.storage).2
  simp only [init, hopened, Bool.false_eq_true, if_false]
  constructor
  · exact hlater.symm
  · change around.events ++ [Event.badge (saved.current around.storage).1.unitCount] =
      around.events ++ [.badge (saved.current (saved.current around.storage).2).1.unitCount]
    rw [hbadge]

/-- A change of a quantity takes the snapshot first, whatever came of the change. -/
theorem update_refreshed {saved : SavedCart σ} (hsteady : saved.medium.Steady saved.key)
    (page : CartPage) (code : ProductCode) (quantity : Int64) (around : Surroundings σ τ) :
    Refreshed saved around (page.update saved code quantity around) := by
  have hbadge := SavedCart.current_again hsteady (saved.update code quantity around.storage).2
  have hlater := SavedCart.current_again hsteady
    (saved.current (saved.update code quantity around.storage).2).2
  constructor
  · exact (hlater.trans hbadge).symm
  · change around.events ++ [Event.badge
        (saved.current (saved.current (saved.update code quantity around.storage).2).2).1.unitCount] =
      around.events ++ [.badge (saved.current (saved.update code quantity around.storage).2).1.unitCount]
    rw [hbadge]

/-- The badge shows the units of the snapshot. -/
def InStep (state : CartPage × Surroundings σ τ) : Prop :=
  Event.badge? state.2.events = some state.1.cart.unitCount

theorem Refreshed.inStep {saved : SavedCart σ} {around : Surroundings σ τ}
    {next : CartPage × Surroundings σ τ} (h : Refreshed saved around next) : InStep next := by
  rw [InStep, h.events_eq]
  simp [Event.badge?]

theorem Leaves.inStep {page : CartPage} {around : Surroundings σ τ}
    {next : CartPage × Surroundings σ τ} (h : page.Leaves around next)
    (hbefore : InStep (page, around)) : InStep next := by
  rw [InStep, h.badge_eq, h.cart_eq]
  exact hbefore

end CartPage

/-! ### Runs -/

/-- A call to the page, or a change of what is stored that comes from elsewhere. The failures that
    are in force are part of what is stored. -/
inductive CartMove (σ τ : Type) where
  | here (call : CartCall τ)
  | elsewhere (change : σ → σ)

namespace CartMove

def step (saved : SavedCart σ) (state : CartPage × Surroundings σ τ) (move : CartMove σ τ) :
    CartPage × Surroundings σ τ :=
  match move with
  | .here call => call.on saved state.1 state.2
  | .elsewhere change => (state.1, { state.2 with storage := change state.2.storage })

def run (saved : SavedCart σ) (moves : List (CartMove σ τ))
    (state : CartPage × Surroundings σ τ) : CartPage × Surroundings σ τ :=
  moves.foldl (step saved) state

theorem run_concat (saved : SavedCart σ) (moves : List (CartMove σ τ)) (move : CartMove σ τ)
    (state : CartPage × Surroundings σ τ) :
    run saved (moves ++ [move]) state = step saved (run saved moves state) move := by
  simp only [run, List.foldl_append, List.foldl_cons, List.foldl_nil]

end CartMove

/-- The call is a change of a quantity, or it is the first one that opens the page after the
    moves. -/
def CartCall.Refreshes (before : List (CartMove σ τ)) : CartCall τ → Prop
  | .init => .here .init ∉ before
  | .update _ _ => True
  | _ => False

/-- What is around a page, with an eye on the accesses to the storage from now on. -/
def Surroundings.watched (around : Surroundings σ τ) : Surroundings (σ × List Access) τ :=
  ⟨(around.storage, []), around.network, around.events⟩

namespace CartMove

/-- A page is open just when it was opened in the run. -/
theorem run_opened (saved : SavedCart σ) (moves : List (CartMove σ τ))
    (state : CartPage × Surroundings σ τ) :
    (run saved moves state).1.opened = true ↔
      state.1.opened = true ∨ .here .init ∈ moves := by
  induction moves generalizing state with
  | nil => simp [run]
  | cons move moves ih =>
    have hstep : (step saved state move).1.opened = true ↔
        state.1.opened = true ∨ move = .here .init := by
      cases move with
      | here call => simp [step, CartCall.on_opened]
      | elsewhere change => simp [step]
    change (run saved moves (step saved state move)).1.opened = true ↔ _
    rw [ih, hstep, List.mem_cons, or_assoc, eq_comm (a := move)]

variable {saved : SavedCart σ} {state : CartPage × Surroundings σ τ}
  {moves : List (CartMove σ τ)} {call : CartCall τ}

/-- A call that refreshes reads the saved cart anew. -/
theorem refreshed_of_refreshes (hsteady : saved.medium.Steady saved.key)
    (hstate : state.1.opened = true ↔ .here .init ∈ moves) (h : call.Refreshes moves) :
    CartPage.Refreshed saved state.2 (call.on saved state.1 state.2) := by
  cases call with
  | init =>
    have hopened : state.1.opened = false := by
      rw [← Bool.not_eq_true, hstate]
      exact h
    exact CartPage.init_refreshed hsteady hopened state.2
  | update code quantity => exact CartPage.update_refreshed hsteady state.1 code quantity state.2
  | _ => exact h.elim

/-- Any other call leaves what it finds, except taking a snapshot for its own sake. -/
theorem leaves_of_not_refreshes (saved : SavedCart σ)
    (hstate : state.1.opened = true ↔ .here .init ∈ moves) (h : ¬ call.Refreshes moves)
    (hload : call ≠ .load) : state.1.Leaves state.2 (call.on saved state.1 state.2) := by
  apply CartCall.on_leaves
  cases call with
  | init =>
    have hopened : state.1.opened = true := hstate.2 (not_not.1 h)
    simp only [CartCall.fetched?, hopened, if_true]
  | load => exact absurd rfl hload
  | update code quantity => exact absurd trivial h
  | _ => rfl

/-- From the first refreshing call on, badge and snapshot are in step. -/
theorem run_inStep (hsteady : saved.medium.Steady saved.key) (hopened : state.1.opened = false)
    (hload : .here .load ∉ moves)
    (hrefreshed : ∃ before call, before ++ [.here call] <+: moves ∧ call.Refreshes before) :
    CartPage.InStep (run saved moves state) := by
  induction moves using List.reverseRecOn with
  | nil =>
    obtain ⟨before, call, hprefix, -⟩ := hrefreshed
    simp at hprefix
  | append_singleton moves move ih =>
    have hnow : (run saved moves state).1.opened = true ↔ .here .init ∈ moves := by
      simp [run_opened, hopened]
    simp only [List.mem_append, List.mem_singleton, not_or] at hload
    rw [run_concat]
    -- Either the last move refreshes, or there was a refreshing call before it.
    by_cases hlast : ∃ call, move = .here call ∧ call.Refreshes moves
    · obtain ⟨call, rfl, hcall⟩ := hlast
      exact (refreshed_of_refreshes hsteady hnow hcall).inStep
    · have hbefore : CartPage.InStep (run saved moves state) := by
        apply ih hload.1
        obtain ⟨before, call, hprefix, hcall⟩ := hrefreshed
        rcases List.prefix_concat_iff.1 hprefix with heq | hprefix
        · obtain ⟨rfl, hmove⟩ := List.append_inj' heq rfl
          exact absurd ⟨call, (List.singleton_inj.1 hmove).symm, hcall⟩ hlast
        · exact ⟨before, call, hprefix, hcall⟩
      cases move with
      | elsewhere change => exact hbefore
      | here call =>
        have hcall : ¬ call.Refreshes moves := fun hrefreshes => hlast ⟨call, rfl, hrefreshes⟩
        have hne : call ≠ .load := fun heq => hload.2 (heq ▸ rfl)
        exact (leaves_of_not_refreshes saved hnow hcall hne).inStep hbefore

end CartMove

/-- **The snapshot is never stale after a call of its own page.** A cart page is used by any calls
    while anything that is stored changes behind its back, failures included, but not during a call;
    so its readings are steady, as they are for every shop, wherever it keeps its cart and whatever
    fails. When the page is opened for the first time, or a quantity is changed and whatever came of
    that, the snapshot is the cart that is shown as saved now, and all that was shown is one badge
    with its units. Any other call leaves snapshot and badge, unless it takes a snapshot only;
    opening the page again does nothing at all. So badge and snapshot agree from the first on. -/
theorem snapshot_fresh (saved : SavedCart σ) (hsteady : saved.medium.Steady saved.key)
    (form : OrderForm) (around : Surroundings σ τ) (moves : List (CartMove σ τ)) :
    let now := CartMove.run saved moves ({ form }, around)
    (∀ call : CartCall τ, call.Refreshes moves →
      let next := call.on saved now.1 now.2
      next.1.cart = (saved.current next.2.storage).1 ∧
        next.2.events = now.2.events ++ [.badge next.1.cart.unitCount]) ∧
    (∀ call : CartCall τ, ¬ call.Refreshes moves → call ≠ .load →
      let next := call.on saved now.1 now.2
      next.1.cart = now.1.cart ∧ Event.badge? next.2.events = Event.badge? now.2.events) ∧
    (.here .init ∈ moves → now.1.init saved now.2 = now ∧
      now.1.init ⟨saved.medium.logged, saved.key⟩ now.2.watched = (now.1, now.2.watched)) ∧
    (.here .load ∉ moves →
      (∃ before call, before ++ [.here call] <+: moves ∧ call.Refreshes before) →
      Event.badge? now.2.events = some now.1.cart.unitCount) ∧
    ∀ shop : Shop, shop.saved.medium.Steady shop.saved.key ∧
      shop.saved.medium.withFaults.Steady shop.saved.key := by
  intro now
  have hopened : now.1.opened = true ↔ .here .init ∈ moves := by
    simp [now, CartMove.run_opened]
  refine ⟨?_, ?_, ?_, ?_, Shop.saved_steady⟩
  · intro call hcall next
    have hrefreshed := CartMove.refreshed_of_refreshes hsteady hopened hcall
    exact ⟨hrefreshed.cart_eq, hrefreshed.events_eq⟩
  · intro call hcall hload next
    have hleaves := CartMove.leaves_of_not_refreshes saved hopened hcall hload
    exact ⟨hleaves.cart_eq, hleaves.badge_eq⟩
  · intro hinit
    have hagain := hopened.2 hinit
    constructor
    · simp only [CartPage.init, hagain, if_true]
    · simp only [CartPage.init, hagain, if_true]
  · intro hload hrefreshed
    exact CartMove.run_inStep hsteady rfl hload hrefreshed

/-- A page shows two units that are saved. When the storage fails, a change of their quantity leaves
    it with what such a storage shows, the empty cart, and with the badge of that. -/
theorem snapshot_fresh_failing :
    let saved : SavedCart (Faulty Memory) := ⟨Memory.medium.withFaults, "cart"⟩
    let document := SavedLines.codec.write ⟨[⟨⟨"A"⟩, "Atlas", ⟨1250⟩, 2⟩]⟩
    let moves : List (CartMove (Faulty Memory) Unit) :=
      [.elsewhere fun s => { s with state := s.state.insert "cart" document }, .here .init,
        .elsewhere fun s => { s with faults := { get := some (.operation "offline") } }]
    let now := CartMove.run saved moves ({}, ⟨⟨Table.empty, {}⟩, (), []⟩)
    let next := (CartCall.update ⟨"A"⟩ 5).on saved now.1 now.2
    saved.medium.Steady saved.key ∧ now.1.cart.unitCount = 2 ∧ next.1.cart.unitCount = 0 ∧
      Event.badge? now.2.events = some now.1.cart.unitCount ∧
      next.1.cart = (saved.current next.2.storage).1 ∧
      next.2.events = now.2.events ++ [.badge next.1.cart.unitCount] := by
  intro saved document moves now next
  have hsteady : saved.medium.Steady saved.key := (Memory.steady "cart").withFaults
  obtain ⟨hfresh, -, -, hagree, -⟩ :=
    snapshot_fresh saved hsteady {} ⟨⟨Table.empty, {}⟩, (), []⟩ moves
  obtain ⟨hcart, hevents⟩ := hfresh (.update ⟨"A"⟩ 5) trivial
  have hopening : ∃ before call, before ++ [.here call] <+: moves ∧ call.Refreshes before :=
    ⟨[_], .init, ⟨[_], rfl⟩, by simp [CartCall.Refreshes]⟩
  have hbadge := hagree (by simp [moves]) hopening
  have hunits : now.1.cart.unitCount = 2 ∧ next.1.cart.unitCount = 0 := by decide +kernel
  exact ⟨hsteady, hunits.1, hunits.2, hbadge, hcart, hevents⟩

end Bookshop
