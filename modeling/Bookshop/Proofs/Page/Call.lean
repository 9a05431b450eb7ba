import Bookshop.Page.Cart
import Bookshop.Proofs.Cart.Entry
import Bookshop.Proofs.Checkout.Outcome

/-!
# Calls to a cart page

A cart page is used by calls. To submit is one call when nothing happens before the service answers;
otherwise it is two, and other calls may come between them. What a call takes as the new snapshot
and which order it sends can be said beforehand: that order, and no other, is what the service has
written down of the call (`CartCall.noted_eq`). Every call that takes no snapshot leaves the one
there is, and the badge with it.
-/

namespace Bookshop

variable {σ τ : Type}

namespace CartPage

/-! ### Submissions in two steps -/

/-- The order that is sent when a submission begins on the page, if one is. -/
def sending? (page : CartPage) : Option Order :=
  match page.submission.begin page.form page.cart with
  | (.sent order, _) => some order
  | _ => none

def begin (page : CartPage) (saved : SavedCart σ) (around : Surroundings σ τ) :
    CartPage × Surroundings σ τ :=
  match page.submission.begin page.form page.cart with
  | (.unsent reason, submission) =>
    ({ page with submission }, (Submission.endUnsent saved reason around).2)
  | (_, submission) => ({ page with submission }, around)

/-- The answer to the order that was sent comes. Nobody waits for it unless one was. -/
def reply (page : CartPage) (saved : SavedCart σ) (answer : Except FetchError Confirmation)
    (around : Surroundings σ τ) : CartPage × Surroundings σ τ :=
  if page.submission.pending then
    let (_, submission, around) := Submission.finish saved answer around
    ({ page with submission }, around)
  else (page, around)

/-- To submit is to begin and, if an order was sent, to get the answer. -/
theorem submit_eq (page : CartPage) (saved : SavedCart σ) (services : Services τ)
    (around : Surroundings σ τ) :
    (page.submit saved services around).2 =
      match page.sending? with
      | none => page.begin saved around
      | some order =>
        let called := around.calling (services.placeOrder order)
        (page.begin saved around).1.reply saved called.1 called.2 := by
  unfold submit Submission.submit sending? begin Submission.begin
  by_cases hpending : page.submission.pending = true
  · simp only [hpending, if_true]
  by_cases hempty : page.cart.isEmpty = true
  · simp only [hpending, hempty, Bool.false_eq_true, if_false, if_true]
  · simp only [hpending, hempty, Bool.false_eq_true, if_false, reply, if_true]

/-- An order is sent only by a page that shows lines, and it is made of them. -/
theorem sending?_eq_some {page : CartPage} {order : Order} (h : page.sending? = some order) :
    order = Order.ofForm page.form page.cart ∧ page.cart.lines ≠ [] := by
  unfold sending? Submission.begin at h
  by_cases hpending : page.submission.pending = true
  · simp only [hpending, if_true, reduceCtorEq] at h
  by_cases hempty : page.cart.isEmpty = true
  · simp only [hpending, hempty, Bool.false_eq_true, if_false, if_true, reduceCtorEq] at h
  · simp only [hpending, hempty, Bool.false_eq_true, if_false, Option.some.injEq] at h
    exact ⟨h.symm, by simpa [Cart.isEmpty] using hempty⟩

/-- Of a submission the service writes down the order that it begins with, and nothing else is
    different for that. -/
theorem submit_noting (page : CartPage) (saved : SavedCart σ) (services : Services τ)
    (around : Surroundings σ τ) :
    (around.noting fun around => (page.submit saved services.logged around).2) =
      ((page.submit saved services around).2, page.sending?.toList) := by
  unfold submit Submission.submit sending?
  rcases page.submission.begin page.form page.cart with ⟨beginning, submission⟩
  cases beginning with
  | refused => rfl
  | unsent reason => rfl
  | sent order =>
    simp only [Submission.finish, Surroundings.noting, Surroundings.calling, Services.logged]
    rcases Submission.ofResult_cases
        (Submission.judge (services.placeOrder order around.network).1) with
      ⟨confirmation, -, houtcome⟩ | ⟨reason, -, houtcome⟩
    · simp only [houtcome, Submission.apply_placed]
      rfl
    · simp only [houtcome, Submission.apply_failed]
      rfl

/-! ### Leaving the snapshot -/

/-- The page shows the snapshot that it showed before, is open if it was, and the badge shows what
    it showed. -/
structure Leaves (page : CartPage) (around : Surroundings σ τ)
    (next : CartPage × Surroundings σ τ) : Prop where
  cart_eq : next.1.cart = page.cart
  opened_eq : next.1.opened = page.opened
  badge_eq : Event.badge? next.2.events = Event.badge? around.events

theorem badge?_apply (saved : SavedCart σ) (outcome : Outcome) (around : Surroundings σ τ) :
    Event.badge? (Submission.apply saved outcome around).events = Event.badge? around.events := by
  cases outcome with
  | placed number redirect =>
    rw [Submission.apply_placed]
    simp [Event.badge?]
  | failed reason =>
    rw [Submission.apply_failed]
    simp [Event.badge?]
  | alreadySubmitting => rfl

theorem begin_leaves (page : CartPage) (saved : SavedCart σ) (around : Surroundings σ τ) :
    page.Leaves around (page.begin saved around) := by
  unfold begin
  split
  · exact ⟨rfl, rfl, badge?_apply saved _ around⟩
  · exact ⟨rfl, rfl, rfl⟩

theorem reply_leaves (page : CartPage) (saved : SavedCart σ)
    (answer : Except FetchError Confirmation) (around : Surroundings σ τ) :
    page.Leaves around (page.reply saved answer around) := by
  unfold reply
  split
  · exact ⟨rfl, rfl, badge?_apply saved _ around⟩
  · exact ⟨rfl, rfl, rfl⟩

theorem submit_leaves (page : CartPage) (saved : SavedCart σ) (services : Services τ)
    (around : Surroundings σ τ) : page.Leaves around (page.submit saved services around).2 := by
  have hbegin := begin_leaves page saved around
  rw [submit_eq]
  cases hsending : page.sending? with
  | none => exact hbegin
  | some order =>
    have hreply := reply_leaves (page.begin saved around).1 saved
      (around.calling (services.placeOrder order)).1 (around.calling (services.placeOrder order)).2
    exact {
      cart_eq := hreply.cart_eq.trans hbegin.cart_eq
      opened_eq := hreply.opened_eq.trans hbegin.opened_eq
      badge_eq := hreply.badge_eq }

end CartPage

/-! ### Calls -/

/-- A call to a cart page. -/
inductive CartCall (τ : Type) where
  | init
  | load
  | update (code : ProductCode) (quantity : Int64)
  | discard
  | fill (form : OrderForm)
  /-- To submit, when the service answers before anything else happens. -/
  | submit (services : Services τ)
  | begin
  | reply (answer : Except FetchError Confirmation)
  | drop

namespace CartCall

/-- The page and its surroundings after the call. -/
def on (saved : SavedCart σ) (call : CartCall τ) (page : CartPage) (around : Surroundings σ τ) :
    CartPage × Surroundings σ τ :=
  match call with
  | init => page.init saved around
  | load => page.load saved around
  | update code quantity => page.update saved code quantity around
  | discard => (page, CartPage.discard saved around)
  | fill form => ({ page with form }, around)
  | submit services => (page.submit saved services around).2
  | begin => page.begin saved around
  | reply answer => page.reply saved answer around
  | drop => ({ page with submission := Submission.drop }, around)

/-- What the saved cart shows when the call looks at it for the snapshot, if it does. -/
def fetched? (saved : SavedCart σ) (call : CartCall τ) (page : CartPage)
    (around : Surroundings σ τ) : Option Cart :=
  match call with
  | init =>
    if page.opened then none
    else some (saved.current (CartPage.refreshBadge saved around).storage).1
  | load => some (saved.current around.storage).1
  | update code quantity => some (saved.current (saved.update code quantity around.storage).2).1
  | _ => none

/-- The order that the call passes to the order service, if it passes one. -/
def sent? (call : CartCall τ) (page : CartPage) : Option Order :=
  match call with
  | submit _ => page.sending?
  | begin => page.sending?
  | _ => none

theorem sending?_of_sent {call : CartCall τ} {page : CartPage} {order : Order}
    (h : call.sent? page = some order) : page.sending? = some order := by
  cases call with
  | submit services => exact h
  | begin => exact h
  | _ => cases h

/-- No call both takes a snapshot and sends an order. -/
theorem sent?_of_fetched {saved : SavedCart σ} {call : CartCall τ} {page : CartPage}
    {around : Surroundings σ τ} {cart : Cart}
    (h : call.fetched? saved page around = some cart) : call.sent? page = none := by
  cases call with
  | submit services => cases h
  | begin => cases h
  | _ => rfl

/-- The page and its surroundings after the call, and what the order service has written down of it.
    A submission that only begins has passed its order on, and is answered later. -/
def noted (saved : SavedCart σ) (call : CartCall τ) (page : CartPage) (around : Surroundings σ τ) :
    (CartPage × Surroundings σ τ) × List Order :=
  match call with
  | submit services => around.noting fun around => (page.submit saved services.logged around).2
  | begin => (page.begin saved around, page.sending?.toList)
  | call => (call.on saved page around, [])

/-- What the order service has written down of a call is the order that the call sends. -/
theorem noted_eq (saved : SavedCart σ) (call : CartCall τ) (page : CartPage)
    (around : Surroundings σ τ) :
    call.noted saved page around = (call.on saved page around, (call.sent? page).toList) := by
  cases call with
  | submit services => exact page.submit_noting saved services around
  | begin => rfl
  | _ => rfl

/-- A call that takes no snapshot leaves the one there is. -/
theorem on_leaves {saved : SavedCart σ} {call : CartCall τ} {page : CartPage}
    {around : Surroundings σ τ} (h : call.fetched? saved page around = none) :
    page.Leaves around (call.on saved page around) := by
  cases call with
  | init =>
    have hopened : page.opened = true := by
      by_contra hne
      simp only [fetched?, hne, if_false, reduceCtorEq] at h
    simp only [on, CartPage.init, hopened, if_true]
    exact ⟨rfl, rfl, rfl⟩
  | load => cases h
  | update code quantity => cases h
  | discard => exact ⟨rfl, rfl, rfl⟩
  | fill form => exact ⟨rfl, rfl, rfl⟩
  | submit services => exact CartPage.submit_leaves page saved services around
  | begin => exact CartPage.begin_leaves page saved around
  | reply answer => exact CartPage.reply_leaves page saved answer around
  | drop => exact ⟨rfl, rfl, rfl⟩

/-- The snapshot after a call is the cart that the call looked at, or the snapshot before it. -/
theorem on_cart (saved : SavedCart σ) (call : CartCall τ) (page : CartPage)
    (around : Surroundings σ τ) :
    (call.on saved page around).1.cart = (call.fetched? saved page around).getD page.cart := by
  cases hfetched : call.fetched? saved page around with
  | none => exact (on_leaves hfetched).cart_eq
  | some cart =>
    cases call with
    | init =>
      by_cases hopened : page.opened = true
      · simp only [fetched?, hopened, if_true, reduceCtorEq] at hfetched
      · simp only [fetched?, hopened, Bool.false_eq_true, if_false, Option.some.injEq] at hfetched
        simp only [on, CartPage.init, hopened, Bool.false_eq_true, if_false]
        exact hfetched
    | load => exact Option.some.inj hfetched
    | update code quantity => exact Option.some.inj hfetched
    | _ => cases hfetched

/-- Only opening the page opens it. -/
theorem on_opened (saved : SavedCart σ) (call : CartCall τ) (page : CartPage)
    (around : Surroundings σ τ) :
    (call.on saved page around).1.opened = true ↔ page.opened = true ∨ call = init := by
  cases call with
  | init =>
    simp only [on, CartPage.init]
    split
    · next hopened => simp [hopened]
    · simp [CartPage.load]
  | load => simp [on, CartPage.load]
  | update code quantity => simp [on, CartPage.update, CartPage.load]
  | submit services =>
    have hopened := (CartPage.submit_leaves page saved services around).opened_eq
    simp [on, hopened]
  | begin =>
    have hopened := (CartPage.begin_leaves page saved around).opened_eq
    simp [on, hopened]
  | reply answer =>
    have hopened := (CartPage.reply_leaves page saved answer around).opened_eq
    simp [on, hopened]
  | discard => simp [on]
  | fill form => simp [on]
  | drop => simp [on]

theorem fetched?_valid {saved : SavedCart σ} {call : CartCall τ} {page : CartPage}
    {around : Surroundings σ τ} {cart : Cart}
    (h : call.fetched? saved page around = some cart) : cart.Valid := by
  unfold fetched? at h
  split at h
  · split at h
    · cases h
    · cases h
      exact saved.current_valid _
  · cases h
    exact saved.current_valid _
  · cases h
    exact saved.current_valid _
  · cases h

end CartCall

end Bookshop
