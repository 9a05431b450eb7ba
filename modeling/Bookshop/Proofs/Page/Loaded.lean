import Mathlib.Data.List.Induction
import Bookshop.Page.Listing
import Bookshop.Page.Order
import Bookshop.Proofs.Cart.Entry
import Bookshop.Proofs.Storage.Retained

/-!
# What a page has loaded

A listing page shows what came of the last load that succeeded, and so does an order page. A load
that fails is as if it had not been tried, whatever else happens before and after it. The badge is
another matter: it is shown whenever a listing page is opened, and for an addition just when the
saved cart accepted it.

The main statement is `pages_show_last_load`, about every run of either page.
-/

namespace Bookshop

variable {σ τ κ : Type}

/-! ### The last gain -/

section Gains

variable {S M β : Type} (step : S → M → S) (gain? : S → M → Option β)

/-- What the moves of a run gain, in order. -/
def gains : S → List M → List β
  | _, [] => []
  | state, move :: moves => (gain? state move).toList ++ gains (step state move) moves

variable {step gain?}

/-- When every move shows what it gains, and otherwise what was shown before, a run shows what was
    gained last. -/
theorem shown_foldl (shown : S → Option β)
    (h : ∀ state move, shown (step state move) = (gain? state move).or (shown state))
    (state : S) (moves : List M) :
    shown (moves.foldl step state) =
      (gains step gain? state moves).getLast?.or (shown state) := by
  induction moves generalizing state with
  | nil => rfl
  | cons move moves ih =>
    have hlast : (gain? state move).toList.getLast? = gain? state move := by
      cases gain? state move <;> rfl
    rw [List.foldl_cons, ih, h state move, gains, List.getLast?_append, hlast, Option.or_assoc]

end Gains

/-! ### Listing pages -/

/-- A call to a listing page, or a change of anything around it. While the page waits to be opened,
    others may change what is stored. -/
inductive ListingMove (σ τ : Type) where
  | init (services : Services τ) (meanwhile : σ → σ)
  | load (services : Services τ) (pageNumber : Nat)
  | add (product : Product)
  | elsewhere (change : Surroundings σ τ → Surroundings σ τ)

namespace ListingPage

/-- What the page shows of the catalog. -/
def shown (state : ListingPage × Surroundings σ τ) : Nat × Listing :=
  (state.1.pageNumber, state.1.listing)

end ListingPage

namespace ListingMove

def step (saved : SavedCart σ) (state : ListingPage × Surroundings σ τ) (move : ListingMove σ τ) :
    ListingPage × Surroundings σ τ :=
  match move with
  | init services meanwhile =>
    let (page, around) := state.1.load services state.1.pageNumber state.2
    (page, CartPage.refreshBadge saved { around with storage := meanwhile around.storage })
  | load services pageNumber => state.1.load services pageNumber state.2
  | add product => (state.1, ListingPage.addToCart saved product state.2)
  | elsewhere change => (state.1, change state.2)

def run (saved : SavedCart σ) (moves : List (ListingMove σ τ))
    (state : ListingPage × Surroundings σ τ) : ListingPage × Surroundings σ τ :=
  moves.foldl (step saved) state

/-- The page is opened in one piece when nothing happens meanwhile. -/
theorem step_init (saved : SavedCart σ) (services : Services τ)
    (state : ListingPage × Surroundings σ τ) :
    step saved state (init services id) = state.1.init saved services state.2 := rfl

theorem run_concat (saved : SavedCart σ) (moves : List (ListingMove σ τ)) (move : ListingMove σ τ)
    (state : ListingPage × Surroundings σ τ) :
    run saved (moves ++ [move]) state = step saved (run saved moves state) move := by
  simp only [run, List.foldl_append, List.foldl_cons, List.foldl_nil]

/-- The page that the move asks the catalog for, and from which service. -/
def asked? (state : ListingPage × Surroundings σ τ) : ListingMove σ τ → Option (Services τ × Nat)
  | init services _ => some (services, state.1.pageNumber)
  | load services pageNumber => some (services, pageNumber)
  | _ => none

/-- The page that was asked for, with the reply, if that is not a failure. -/
def loaded? (state : ListingPage × Surroundings σ τ) (move : ListingMove σ τ) :
    Option (Nat × Listing) :=
  (move.asked? state).bind fun (services, pageNumber) =>
    (services.listing pageNumber state.2.network).1.toOption.map (pageNumber, ·)

/-- All that was loaded in a run, in order. -/
def loaded (saved : SavedCart σ) (moves : List (ListingMove σ τ))
    (state : ListingPage × Surroundings σ τ) : List (Nat × Listing) :=
  gains (step saved) loaded? state moves

end ListingMove

namespace ListingPage

theorem load_eq (page : ListingPage) (services : Services τ) (pageNumber : Nat)
    (around : Surroundings σ τ) :
    page.load services pageNumber around =
      (match (services.listing pageNumber around.network).1 with
        | .ok listing => ⟨pageNumber, listing⟩
        | .error _ => page,
        { around with network := (services.listing pageNumber around.network).2 }) := by
  unfold load Surroundings.calling
  rcases services.listing pageNumber around.network with ⟨answer, network⟩
  cases answer <;> rfl

/-- Page number and products are those of the load if it succeeds, and otherwise both stay. -/
theorem shown_load (page : ListingPage) (services : Services τ) (pageNumber : Nat)
    (around : Surroundings σ τ) :
    shown (page.load services pageNumber around) =
      ((services.listing pageNumber around.network).1.toOption.map (pageNumber, ·)).getD
        (page.pageNumber, page.listing) := by
  rw [load_eq, shown]
  cases (services.listing pageNumber around.network).1 <;> rfl

theorem addToCart_eq (saved : SavedCart σ) (product : Product) (around : Surroundings σ τ) :
    addToCart saved product around =
      { around with
        storage := (saved.add product 1 around.storage).2
        events := match (saved.add product 1 around.storage).1 with
          | .ok cart => around.events ++ [.badge cart.unitCount]
          | .error _ => around.events } := by
  unfold addToCart Surroundings.storing
  rcases saved.add product 1 around.storage with ⟨answer, storage⟩
  cases answer <;> rfl

end ListingPage

namespace ListingMove

/-- Only a load changes what the page shows of the catalog. -/
theorem shown_step (saved : SavedCart σ) (state : ListingPage × Surroundings σ τ)
    (move : ListingMove σ τ) :
    ListingPage.shown (step saved state move) =
      (move.loaded? state).getD (ListingPage.shown state) := by
  cases move with
  | init services meanwhile => exact ListingPage.shown_load state.1 services _ state.2
  | load services pageNumber => exact ListingPage.shown_load state.1 services pageNumber state.2
  | add product => rfl
  | elsewhere change => rfl

theorem shown_run (saved : SavedCart σ) (moves : List (ListingMove σ τ))
    (state : ListingPage × Surroundings σ τ) :
    ListingPage.shown (run saved moves state) =
      (loaded saved moves state).getLast?.getD (ListingPage.shown state) := by
  apply Option.some.inj
  rw [← Option.or_some]
  refine shown_foldl (fun state => some (ListingPage.shown state)) ?_ state moves
  intro state move
  rw [shown_step, Option.or_some]

end ListingMove

/-! ### Refused changes -/

namespace SavedCart

variable {saved : SavedCart σ} {view : σ → κ}

/-- Keeping a cart is one writing of its document. -/
theorem keep_eq_written (saved : SavedCart σ) (cart : Cart) (state : σ) :
    let written := saved.medium.set saved.key (SavedLines.codec.write ⟨cart.lines⟩) state
    saved.keep cart state =
      ((written.1.map fun _ => cart).mapError CartError.storage, written.2) := by
  intro written
  unfold keep save Medium.save
  rcases hwritten : saved.medium.set saved.key (SavedLines.codec.write ⟨cart.lines⟩) state with
    ⟨answer, after⟩
  simp only [written, hwritten]
  cases answer <;> rfl

theorem keep_retains (h : saved.medium.Retains view) {cart : Cart} {state : σ} {e : CartError}
    (hkeep : (saved.keep cart state).1 = .error e) :
    view (saved.keep cart state).2 = view state := by
  rw [keep_eq_written] at hkeep ⊢
  cases hanswer : (saved.medium.set saved.key (SavedLines.codec.write ⟨cart.lines⟩) state).1 with
  | ok done =>
    rw [hanswer] at hkeep
    cases hkeep
  | error cause => exact h.set _ _ state hanswer

/-- A change that is refused, by the cart or by the medium, leaves what is retained. -/
theorem change_retains (h : saved.medium.Retains view)
    {edit : Cart → Except CartError (Option Cart)} {state : σ} {e : CartError}
    (hchange : (saved.change edit state).1 = .error e) :
    view (saved.change edit state).2 = view state := by
  have hget := h.get saved.key state
  simp only [change, load_eq_loaded] at hchange ⊢
  split
  · next hloaded =>
    obtain ⟨-, rfl⟩ := Prod.mk.inj hloaded
    exact hget
  · next cart after hloaded =>
    obtain ⟨hcart, rfl⟩ := Prod.mk.inj hloaded
    simp only [hcart] at hchange
    split
    · exact hget
    · exact hget
    · next changed hedit =>
      simp only [hedit] at hchange
      rw [keep_retains h hchange, hget]

end SavedCart

/-! ### Order pages -/

/-- A call to an order page, or a change of anything around it. -/
inductive OrderMove (σ τ : Type) where
  | load (services : Services τ)
  | elsewhere (change : Surroundings σ τ → Surroundings σ τ)

namespace OrderMove

def step (state : OrderPage × Surroundings σ τ) (move : OrderMove σ τ) :
    OrderPage × Surroundings σ τ :=
  match move with
  | load services => state.1.load services state.2
  | elsewhere change => (state.1, change state.2)

def run (moves : List (OrderMove σ τ)) (state : OrderPage × Surroundings σ τ) :
    OrderPage × Surroundings σ τ :=
  moves.foldl step state

/-- The reply to the move, if it is a load and that is not a failure. -/
def loaded? (state : OrderPage × Surroundings σ τ) : OrderMove σ τ → Option OrderRecord
  | load services => (services.orderRecord state.1.number state.2.network).1.toOption
  | elsewhere _ => none

def loaded (moves : List (OrderMove σ τ)) (state : OrderPage × Surroundings σ τ) :
    List OrderRecord :=
  gains step loaded? state moves

theorem page_step (state : OrderPage × Surroundings σ τ) (move : OrderMove σ τ) :
    (step state move).1 =
      ⟨state.1.number, (move.loaded? state).or state.1.record⟩ := by
  cases move with
  | load services =>
    simp only [step, loaded?]
    unfold OrderPage.load Surroundings.calling
    rcases services.orderRecord state.1.number state.2.network with ⟨answer, network⟩
    cases answer <;> rfl
  | elsewhere change => rfl

/-- The page shows what was loaded last, of the one order that it is for. -/
theorem page_run (moves : List (OrderMove σ τ)) (state : OrderPage × Surroundings σ τ) :
    (run moves state).1 =
      ⟨state.1.number, (loaded moves state).getLast?.or state.1.record⟩ := by
  have hnumber : (run moves state).1.number = state.1.number := by
    induction moves generalizing state with
    | nil => rfl
    | cons move moves ih =>
      refine (ih (step state move)).trans ?_
      rw [page_step]
  have hrecord : (run moves state).1.record = (loaded moves state).getLast?.or state.1.record := by
    refine shown_foldl (fun state => state.1.record) ?_ state moves
    intro state move
    rw [page_step]
  rw [← hnumber, ← hrecord]

end OrderMove

/-- **Pages show what they loaded last.** A listing page is opened, loads pages of the catalog and
    adds products in any order, with any replies of the catalog and whatever is stored meanwhile and
    answered by the medium. At any moment its page number and its products are those of the last
    load that succeeded, or those of a blank first view. To add a product leaves both; if the saved
    cart accepts it, one badge with the units of the cart that it answered is shown, and otherwise
    nothing is and whatever the medium retains stays stored, as everything does at the places of a
    shop, also when accesses fail. To open the page shows one badge with the units that are saved,
    whatever came of the load and whatever was stored until it came; when that was nothing, the page
    is opened in one piece. An order page shows the last record that was loaded, if there was one,
    and is for the same order all the time. -/
theorem pages_show_last_load (saved : SavedCart σ) (around : Surroundings σ τ) :
    (∀ (number : Nat) (moves : List (ListingMove σ τ)),
      let start := (ListingPage.new number, around)
      let now := ListingMove.run saved moves start
      (now.1.pageNumber, now.1.listing) =
        (ListingMove.loaded saved moves start).getLast?.getD (max number 1, .blank) ∧
      (∀ product,
        let next := ListingMove.run saved (moves ++ [.add product]) start
        let added := saved.add product 1 now.2.storage
        next.1 = now.1 ∧ next.2.storage = added.2 ∧
        (∀ cart, added.1 = .ok cart →
          next.2.events = now.2.events ++ [.badge cart.unitCount]) ∧
        ∀ e, added.1 = .error e → next.2.events = now.2.events ∧
          ∀ {κ : Type} (view : σ → κ), saved.medium.Retains view →
            view next.2.storage = view now.2.storage) ∧
      (∀ services meanwhile,
        let next := ListingMove.run saved (moves ++ [.init services meanwhile]) start
        let counted := saved.unitCount (meanwhile now.2.storage)
        next.2.storage = counted.2 ∧ next.2.events = now.2.events ++ [.badge counted.1]) ∧
      ∀ services,
        ListingMove.run saved (moves ++ [.init services id]) start =
          now.1.init saved services now.2) ∧
    (∀ (number : OrderNumber) (moves : List (OrderMove σ τ)),
      let start := (({ number } : OrderPage), around)
      let now := OrderMove.run moves start
      now.1.record = (OrderMove.loaded moves start).getLast? ∧ now.1.number = number) ∧
    ∀ (place : Place) (faults : Nat → Option MediumFault),
      place.medium.Retains Premises.kept ∧
        (place.medium.failing faults).Retains fun s => Premises.kept s.1 := by
  refine ⟨?_, ?_, fun place faults => ⟨place.retains, place.retains.failing faults⟩⟩
  · intro number moves start now
    refine ⟨ListingMove.shown_run saved moves start, ?_, ?_, ?_⟩
    · intro product next added
      have hnext : next = (now.1, ListingPage.addToCart saved product now.2) :=
        ListingMove.run_concat saved moves _ start
      rw [hnext, ListingPage.addToCart_eq]
      refine ⟨rfl, rfl, ?_, ?_⟩
      · intro cart hcart
        simp only [added] at hcart
        simp only [hcart]
      · intro e he
        simp only [added] at he
        simp only [he, true_and]
        intro κ view hview
        exact SavedCart.change_retains hview he
    · intro services meanwhile next counted
      have hnext : next = ListingMove.step saved now (.init services meanwhile) :=
        ListingMove.run_concat saved moves _ start
      rw [hnext]
      simp only [ListingMove.step, ListingPage.load_eq, CartPage.refreshBadge,
        Surroundings.storing, Surroundings.emit]
      exact ⟨rfl, rfl⟩
    · intro services
      rw [ListingMove.run_concat, ListingMove.step_init]
  · intro number moves start now
    have hpage : now.1 = _ := OrderMove.page_run moves start
    rw [hpage]
    exact ⟨Option.or_none, rfl⟩

/-- Of three loads only the second succeeds, with which the page is opened. -/
example :
    let first : Listing := { totalPages := 2 }
    let services : Services Unit :=
      { listing := fun number _ => (if number = 1 then .ok first else .error .timeout, ())
        placeOrder := fun _ _ => (.error .timeout, ())
        orderRecord := fun _ _ => (.error .timeout, ()) }
    let saved : SavedCart Memory := ⟨Memory.medium, "cart"⟩
    let moves : List (ListingMove Memory Unit) :=
      [.load services 2, .init services id, .load services 3]
    let start := (ListingPage.new 0, ⟨Table.empty, (), []⟩)
    let now := ListingMove.run saved moves start
    ListingMove.loaded saved moves start = [(1, first)] ∧ now.1 = ⟨1, first⟩ ∧
      now.2.events = [.badge 0] :=
  ⟨rfl, rfl, rfl⟩

end Bookshop
