import Bookshop.Proofs.Page.Call
import Bookshop.Proofs.Page.Loaded

/-!
# Orders of a whole shop floor

Any number of cart pages and listing pages are open and share one saved cart. What is stored may be
anything and may be changed by others at any time, and the medium may answer anything and fail at
any access. A note is made of every cart that a cart page is shown, and of every order that the
order service is given while a page of either kind is called. The service writes the orders down
itself, so what is noted is what has arrived.

The main statement is `sent_well_formed`, about every order that is noted in any run: it comes from
a cart page and has the lines of the cart that this page was shown last, which is valid and not
empty. What carries it is `Floor.Sound`, which every move keeps.
-/

namespace Bookshop

variable {σ τ : Type}

/-! ### Notes -/

/-- The page that an order comes from, by its number among the pages of its kind. -/
inductive Sender where
  | cart (number : Nat)
  | listing (number : Nat)
deriving DecidableEq, Repr

/-- What is noted of the pages. -/
inductive Note where
  /-- The cart page took as its snapshot the cart that was shown as saved. -/
  | fetched (page : Nat) (cart : Cart)
  /-- The order service was given an order. -/
  | sent (sender : Sender) (order : Order)
deriving DecidableEq, Repr

namespace Note

def fetchedBy? (page : Nat) : Note → Option Cart
  | fetched number cart => if number = page then some cart else none
  | sent _ _ => none

/-- The cart that a page was shown last. -/
def lastFetched? (page : Nat) (notes : List Note) : Option Cart :=
  (notes.filterMap (fetchedBy? page)).getLast?

@[simp] theorem lastFetched?_sent (page : Nat) (sender : Sender) (order : Order)
    (notes : List Note) :
    lastFetched? page (notes ++ [sent sender order]) = lastFetched? page notes := by
  simp [lastFetched?, fetchedBy?]

theorem lastFetched?_fetched (page number : Nat) (cart : Cart) (notes : List Note) :
    lastFetched? page (notes ++ [fetched number cart]) =
      if number = page then some cart else lastFetched? page notes := by
  by_cases h : number = page <;> simp [lastFetched?, fetchedBy?, h]

theorem mem_of_lastFetched? {page : Nat} {cart : Cart} {notes : List Note}
    (h : lastFetched? page notes = some cart) : fetched page cart ∈ notes := by
  obtain ⟨note, hnote, hfetched⟩ := List.mem_filterMap.1 (List.mem_of_getLast? h)
  cases note with
  | sent sender order => cases hfetched
  | fetched number other =>
    simp only [fetchedBy?] at hfetched
    split at hfetched
    · next heq =>
      cases hfetched
      exact heq ▸ hnote
    · cases hfetched

end Note

/-! ### The floor -/

/-- A call to a listing page. -/
inductive ListingCall (τ : Type) where
  | init (services : Services τ)
  | load (services : Services τ) (pageNumber : Nat)
  | add (product : Product)

def ListingCall.on (saved : SavedCart σ) (call : ListingCall τ) (page : ListingPage)
    (around : Surroundings σ τ) : ListingPage × Surroundings σ τ :=
  match call with
  | init services => page.init saved services around
  | load services pageNumber => page.load services pageNumber around
  | add product => (page, ListingPage.addToCart saved product around)

/-- The page and its surroundings after the call, and what the order service has written down of
    it. -/
def ListingCall.noted (saved : SavedCart σ) (call : ListingCall τ) (page : ListingPage)
    (around : Surroundings σ τ) : (ListingPage × Surroundings σ τ) × List Order :=
  match call with
  | init services => around.noting (page.init saved services.logged)
  | load services pageNumber => around.noting (page.load services.logged pageNumber)
  | add product => ((page, ListingPage.addToCart saved product around), [])

/-- The order service has nothing to write down of a listing page. -/
theorem ListingCall.noted_eq (saved : SavedCart σ) (call : ListingCall τ) (page : ListingPage)
    (around : Surroundings σ τ) :
    call.noted saved page around = (call.on saved page around, []) := by
  cases call with
  | init services =>
    simp only [noted, on, Surroundings.noting, ListingPage.init, ListingPage.load_eq,
      Services.logged]
    rfl
  | load services pageNumber =>
    simp only [noted, on, Surroundings.noting, ListingPage.load_eq, Services.logged]
  | add product => rfl

/-- The open pages in the order in which they were opened, and what is around them. -/
structure Floor (σ τ : Type) where
  carts : List CartPage
  listings : List ListingPage
  around : Surroundings σ τ
  notes : List Note

/-- A page is opened or called, or anything around the pages becomes something else. -/
inductive FloorMove (σ τ : Type) where
  | openCart (form : OrderForm)
  | openListing (pageNumber : Nat)
  | cart (number : Nat) (call : CartCall τ)
  | listing (number : Nat) (call : ListingCall τ)
  | elsewhere (change : Surroundings σ τ → Surroundings σ τ)

namespace Floor

def opened (around : Surroundings σ τ) : Floor σ τ := ⟨[], [], around, []⟩

/-- A cart page is called. A number that no page has is passed over. -/
def callCart (saved : SavedCart σ) (number : Nat) (call : CartCall τ) (floor : Floor σ τ) :
    Floor σ τ :=
  match floor.carts[number]? with
  | none => floor
  | some page =>
    let ((next, around), orders) := call.noted saved page floor.around
    { floor with
      carts := floor.carts.set number next
      around
      notes := floor.notes ++
        ((call.fetched? saved page floor.around).toList.map (.fetched number) ++
          orders.map (.sent (.cart number))) }

def callListing (saved : SavedCart σ) (number : Nat) (call : ListingCall τ) (floor : Floor σ τ) :
    Floor σ τ :=
  match floor.listings[number]? with
  | none => floor
  | some page =>
    let ((next, around), orders) := call.noted saved page floor.around
    { floor with
      listings := floor.listings.set number next
      around
      notes := floor.notes ++ orders.map (.sent (.listing number)) }

def move (saved : SavedCart σ) (floor : Floor σ τ) : FloorMove σ τ → Floor σ τ
  | .openCart form => { floor with carts := floor.carts ++ [{ form }] }
  | .openListing pageNumber =>
    { floor with listings := floor.listings ++ [.new pageNumber] }
  | .cart number call => floor.callCart saved number call
  | .listing number call => floor.callListing saved number call
  | .elsewhere change => { floor with around := change floor.around }

def run (saved : SavedCart σ) (floor : Floor σ τ) (moves : List (FloorMove σ τ)) : Floor σ τ :=
  moves.foldl (move saved) floor

/-! ### The invariant -/

/-- Every cart page shows the cart it was shown last, or none yet and the empty one; the carts that
    pages were shown are valid; and every order was made of the cart that its page was shown last. -/
structure Sound (carts : List CartPage) (notes : List Note) : Prop where
  shown : ∀ number page, carts[number]? = some page →
    page.cart = (Note.lastFetched? number notes).getD .empty
  unopened : ∀ number, carts.length ≤ number → Note.lastFetched? number notes = none
  valid : ∀ number cart, .fetched number cart ∈ notes → cart.Valid
  sent : ∀ before sender order, before ++ [.sent sender order] <+: notes →
    ∃ number cart, sender = .cart number ∧ Note.lastFetched? number before = some cart ∧
      order.lines = cart.lines ∧ order.lines ≠ []

variable {carts : List CartPage} {notes : List Note}

theorem sound_nil : Sound [] [] where
  shown _ _ h := by simp at h
  unopened _ _ := rfl
  valid _ _ h := nomatch h
  sent before sender order h := by simp at h

/-- A page that is opened was shown nothing and shows nothing. -/
theorem Sound.openCart (h : Sound carts notes) (form : OrderForm) :
    Sound (carts ++ [({ form } : CartPage)]) notes where
  shown number page hpage := by
    rcases Nat.lt_or_ge number carts.length with hlt | hge
    · rw [List.getElem?_append_left hlt] at hpage
      exact h.shown number page hpage
    · have hempty : page.cart = .empty := by
        have hmem := List.mem_of_getElem? ((List.getElem?_append_right hge).symm.trans hpage)
        rw [List.mem_singleton.1 hmem]
      rw [h.unopened number hge]
      exact hempty
  unopened number hnumber := by
    rw [List.length_append, List.length_singleton] at hnumber
    exact h.unopened number (by omega)
  valid := h.valid
  sent := h.sent

section Page

variable {number : Nat} {page next : CartPage}

/-- What the pages show once one of them has changed. -/
theorem shown_set (h : ∀ i shown, carts[i]? = some shown →
      shown.cart = (Note.lastFetched? i notes).getD .empty) {after : List Note}
    (hnext : next.cart = (Note.lastFetched? number after).getD .empty)
    (hothers : ∀ i, i ≠ number → Note.lastFetched? i after = Note.lastFetched? i notes) :
    ∀ i shown, (carts.set number next)[i]? = some shown →
      shown.cart = (Note.lastFetched? i after).getD .empty := by
  intro i shown hshown
  rw [List.getElem?_set] at hshown
  split at hshown
  · next heq =>
    subst heq
    split at hshown
    · cases hshown
      exact hnext
    · cases hshown
  · next hne =>
    rw [hothers i (Ne.symm hne)]
    exact h i shown hshown

/-- A call that takes no snapshot and sends nothing. -/
theorem Sound.leave (h : Sound carts notes) (hpage : carts[number]? = some page)
    (hnext : next.cart = page.cart) : Sound (carts.set number next) notes where
  shown := shown_set h.shown (hnext.trans (h.shown number page hpage)) fun _ _ => rfl
  unopened i hi := h.unopened i (by rwa [List.length_set] at hi)
  valid := h.valid
  sent := h.sent

theorem Sound.fetch (h : Sound carts notes) (hpage : carts[number]? = some page) {cart : Cart}
    (hvalid : cart.Valid) (hnext : next.cart = cart) :
    Sound (carts.set number next) (notes ++ [.fetched number cart]) where
  shown := by
    apply shown_set h.shown
    · rw [Note.lastFetched?_fetched, if_pos rfl]
      exact hnext
    · intro i hi
      rw [Note.lastFetched?_fetched, if_neg (Ne.symm hi)]
  unopened i hi := by
    obtain ⟨hlt, -⟩ := List.getElem?_eq_some_iff.1 hpage
    rw [List.length_set] at hi
    rw [Note.lastFetched?_fetched, if_neg (by omega)]
    exact h.unopened i hi
  valid i other hother := by
    rcases List.mem_append.1 hother with hother | hother
    · exact h.valid i other hother
    · cases List.mem_singleton.1 hother
      exact hvalid
  sent before sender order hprefix := by
    rcases List.prefix_concat_iff.1 hprefix with heq | hprefix
    · obtain ⟨-, hnote⟩ := List.append_inj' heq rfl
      cases List.singleton_inj.1 hnote
    · exact h.sent before sender order hprefix

/-- The order has the lines that the page shows. They are not empty, so the page was shown a cart
    before. -/
theorem Sound.send (h : Sound carts notes) (hpage : carts[number]? = some page) {order : Order}
    (hsending : page.sending? = some order) (hnext : next.cart = page.cart) :
    Sound (carts.set number next) (notes ++ [.sent (.cart number) order]) where
  shown := by
    apply shown_set h.shown
    · rw [Note.lastFetched?_sent]
      exact hnext.trans (h.shown number page hpage)
    · intro i hi
      rw [Note.lastFetched?_sent]
  unopened i hi := by
    rw [List.length_set] at hi
    rw [Note.lastFetched?_sent]
    exact h.unopened i hi
  valid i cart hcart := by
    rcases List.mem_append.1 hcart with hcart | hcart
    · exact h.valid i cart hcart
    · cases List.mem_singleton.1 hcart
  sent before sender other hprefix := by
    rcases List.prefix_concat_iff.1 hprefix with heq | hprefix
    · obtain ⟨rfl, hnote⟩ := List.append_inj' heq rfl
      cases List.singleton_inj.1 hnote
      obtain ⟨rfl, hlines⟩ := CartPage.sending?_eq_some hsending
      have hshown := h.shown number page hpage
      cases hfetched : Note.lastFetched? number before with
      | none =>
        rw [hfetched] at hshown
        exact absurd (congrArg Cart.lines hshown) hlines
      | some cart =>
        rw [hfetched] at hshown
        exact ⟨number, cart, rfl, hfetched, congrArg Cart.lines hshown, hlines⟩
    · exact h.sent before sender other hprefix

end Page

theorem Sound.callCart {floor : Floor σ τ} (h : Sound floor.carts floor.notes)
    (saved : SavedCart σ) (number : Nat) (call : CartCall τ) :
    Sound (floor.callCart saved number call).carts (floor.callCart saved number call).notes := by
  unfold Floor.callCart
  cases hpage : floor.carts[number]? with
  | none => exact h
  | some page =>
    simp only [CartCall.noted_eq]
    have hcart := call.on_cart saved page floor.around
    -- No call makes two notes, so one is added or none.
    cases hfetched : call.fetched? saved page floor.around with
    | some cart =>
      rw [hfetched] at hcart
      rw [call.sent?_of_fetched hfetched]
      exact h.fetch hpage (CartCall.fetched?_valid hfetched) hcart
    | none =>
      rw [hfetched] at hcart
      cases hsent : call.sent? page with
      | none =>
        simp only [Option.toList_none, List.map_nil, List.append_nil]
        exact h.leave hpage hcart
      | some order => exact h.send hpage (CartCall.sending?_of_sent hsent) hcart

theorem Sound.callListing {floor : Floor σ τ} (h : Sound floor.carts floor.notes)
    (saved : SavedCart σ) (number : Nat) (call : ListingCall τ) :
    Sound (floor.callListing saved number call).carts
      (floor.callListing saved number call).notes := by
  unfold Floor.callListing
  cases floor.listings[number]? with
  | none => exact h
  | some page =>
    simp only [ListingCall.noted_eq, List.map_nil, List.append_nil]
    exact h

theorem Sound.move {floor : Floor σ τ} (h : Sound floor.carts floor.notes) (saved : SavedCart σ)
    (m : FloorMove σ τ) : Sound (floor.move saved m).carts (floor.move saved m).notes := by
  cases m with
  | openCart form => exact h.openCart form
  | openListing pageNumber => exact h
  | cart number call => exact h.callCart saved number call
  | listing number call => exact h.callListing saved number call
  | elsewhere change => exact h

theorem Sound.run {floor : Floor σ τ} (h : Sound floor.carts floor.notes) (saved : SavedCart σ)
    (moves : List (FloorMove σ τ)) :
    Sound (floor.run saved moves).carts (floor.run saved moves).notes := by
  induction moves generalizing floor with
  | nil => exact h
  | cons m moves ih => exact ih (h.move saved m)

end Floor

/-- **No malformed order is sent.** In every run of any number of cart pages and listing pages with
    one saved cart, whatever is stored in between and whatever the medium answers, every order that
    the order service is given has a line, distinct codes, quantities from one to the limit and a
    total that is the exact sum of its lines. It comes from a cart page, and its lines are those of
    the cart that was shown as saved when this page was opened, loaded it or changed a quantity for
    the last time before. -/
theorem sent_well_formed (saved : SavedCart σ) (around : Surroundings σ τ)
    (moves : List (FloorMove σ τ)) (before : List Note) (sender : Sender) (order : Order)
    (hsent : before ++ [.sent sender order] <+: ((Floor.opened around).run saved moves).notes) :
    order.lines ≠ [] ∧ (order.lines.map Line.code).Nodup ∧
      (∀ line ∈ order.lines, 1 ≤ line.quantity.toInt ∧ line.quantity.toInt ≤ 9999) ∧
      (∃ total : Money, Line.sumOf order.lines = .ok total ∧
        total.cents.toInt = Line.worthOf order.lines) ∧
      ∃ number cart, sender = .cart number ∧ Note.lastFetched? number before = some cart ∧
        order.lines = cart.lines := by
  have hopened : Floor.Sound (Floor.opened around).carts (Floor.opened around).notes :=
    Floor.sound_nil
  have hsound := hopened.run saved moves
  obtain ⟨number, cart, hsender, hfetched, hlines, hne⟩ := hsound.sent before sender order hsent
  have hmem : .fetched number cart ∈ ((Floor.opened around).run saved moves).notes :=
    hsent.subset (List.mem_append_left _ (Note.mem_of_lastFetched? hfetched))
  have hvalid := hsound.valid number cart hmem
  refine ⟨hne, ?_, ?_, ?_, number, cart, hsender, hfetched, hlines⟩
  · rw [hlines]
    exact hvalid.distinct
  · rw [hlines]
    exact hvalid.quantities
  · rw [hlines]
    exact ⟨cart.total, Line.sumOf_eq_ok_iff.2 ⟨hvalid.summable, hvalid.total_eq⟩, hvalid.total_eq⟩

/-- One unit is added on a listing page, a cart page is opened, and others write two units into the
    entry. Two submissions follow, one that the service refuses and one that waits for its answer,
    and each has passed on what the page was shown last. Then others write what is no document at
    all; after a change of a quantity, for which there is no cart any more, nothing is sent. -/
theorem sent_well_formed_tampered :
    let saved : SavedCart Memory := ⟨Memory.medium, "cart"⟩
    let services : Services Unit :=
      { listing := fun _ _ => (.error .timeout, ())
        placeOrder := fun _ _ => (.error .timeout, ())
        orderRecord := fun _ _ => (.error .timeout, ()) }
    let line : Line := ⟨⟨"A"⟩, "Atlas", ⟨1250⟩, 1⟩
    let tamper (bytes : Bytes) : FloorMove Memory Unit :=
      .elsewhere fun around => { around with storage := around.storage.insert "cart" bytes }
    let moves : List (FloorMove Memory Unit) :=
      [.openListing 1, .openCart {}, .listing 0 (.init services),
        .listing 0 (.add { code := ⟨"A"⟩, name := "Atlas", price := ⟨1250⟩ }), .cart 0 .init,
        tamper (SavedLines.codec.write ⟨[{ line with quantity := 2 }]⟩),
        .cart 0 (.submit services), .cart 0 .begin, tamper [0], .cart 0 .drop,
        .cart 0 (.update ⟨"A"⟩ 3), .cart 0 (.submit services)]
    let order : Order := ⟨{}, {}, [line]⟩
    let cart : Cart := ⟨[line], ⟨1250⟩⟩
    let notes := ((Floor.opened ⟨Table.empty, (), []⟩).run saved moves).notes
    notes = [.fetched 0 cart, .sent (.cart 0) order, .sent (.cart 0) order, .fetched 0 .empty] ∧
      order.lines ≠ [] ∧
      (∃ total : Money, Line.sumOf order.lines = .ok total ∧
        total.cents.toInt = Line.worthOf order.lines) ∧
      ∃ number shown, Sender.cart 0 = .cart number ∧
        Note.lastFetched? number [.fetched 0 cart] = some shown ∧ order.lines = shown.lines := by
  intro saved services line tamper moves order cart notes
  have hnotes : notes =
      [.fetched 0 cart, .sent (.cart 0) order, .sent (.cart 0) order, .fetched 0 .empty] := by
    decide +kernel
  have hsent : [.fetched 0 cart] ++ [.sent (.cart 0) order] <+: notes := by
    rw [hnotes]
    exact ⟨[.sent (.cart 0) order, .fetched 0 .empty], rfl⟩
  obtain ⟨hlines, -, -, htotal, hshown⟩ := sent_well_formed saved
    ⟨Table.empty, (), []⟩ moves [.fetched 0 cart] (.cart 0) order hsent
  exact ⟨hnotes, hlines, htotal, hshown⟩

end Bookshop
