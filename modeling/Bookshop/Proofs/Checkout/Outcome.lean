import Bookshop.Checkout.Submission
import Bookshop.Proofs.Storage.Medium

/-!
# What a submission does

A whole submission is followed with an eye on everything it touches: the accesses to the storage and
the orders sent to the service are written down as they happen. The medium and the service are
arbitrary, so the storage may hold anything and may fail, and the service may answer anything.

The main statement is `submit_effects`: a submission that is not refused sends the lines of its cart
at most once, and ends either placed, with the saved cart deleted and the confirming page opened, or
failed, with the storage untouched and an alert shown.
-/

namespace Bookshop

variable {σ τ : Type}

/-! ### Keeping note of what is done -/

/-- The services that also write down the orders sent, in order. -/
def Services.logged (services : Services τ) : Services (τ × List Order) where
  listing page s :=
    let (answer, state) := services.listing page s.1
    (answer, state, s.2)
  placeOrder order s :=
    let (answer, state) := services.placeOrder order s.1
    (answer, state, s.2 ++ [order])
  orderRecord number s :=
    let (answer, state) := services.orderRecord number s.1
    (answer, state, s.2)

/-- What is done to the surroundings by way of services that write down the orders sent. What comes
    of it is seen without these orders, and they are seen beside it. -/
def Surroundings.noting {α : Type} (around : Surroundings σ τ)
    (access : Surroundings σ (τ × List Order) → α × Surroundings σ (τ × List Order)) :
    (α × Surroundings σ τ) × List Order :=
  let (answer, after) := access ⟨around.storage, (around.network, []), around.events⟩
  ((answer, ⟨after.storage, after.network.1, after.events⟩), after.network.2)

theorem SavedCart.discard_state (saved : SavedCart σ) (state : σ) :
    (saved.discard state).2 = (saved.medium.delete saved.key state).2 := by
  unfold SavedCart.discard
  split
  · next h => rw [h]
  · next h => rw [h]

/-! ### Outcomes -/

theorem isBlank_eq_false_iff {text : String} :
    isBlank text = false ↔ ∃ c ∈ text.toList, isWhiteSpace c = false := by
  simp [isBlank]

namespace Submission

/-- Only a confirmation with a number that is not blank passes. -/
theorem judge_eq_ok_iff {answer : Except FetchError Confirmation} {confirmation : Confirmation} :
    judge answer = .ok confirmation ↔
      answer = .ok confirmation ∧ confirmation.orderNumber.isBlank = false := by
  unfold judge
  cases answer with
  | error e => simp
  | ok given =>
    by_cases hblank : given.orderNumber.isBlank = true
    · simp only [hblank, if_true, reduceCtorEq, Except.ok.injEq, false_iff, not_and]
      rintro rfl
      simp [hblank]
    · simp only [hblank, Bool.false_eq_true, if_false, Except.ok.injEq]
      constructor
      · rintro rfl
        exact ⟨rfl, by simpa using hblank⟩
      · exact fun h => h.1

/-- A result gives a placed order with its number and the page of that number, or a failure. -/
theorem ofResult_cases (result : Except OrderError Confirmation) :
    (∃ confirmation, result = .ok confirmation ∧
      Outcome.ofResult result =
        .placed confirmation.orderNumber (confirmationPath confirmation.orderNumber)) ∨
    ∃ reason, result = .error reason ∧ Outcome.ofResult result = .failed reason := by
  cases result with
  | ok confirmation => exact .inl ⟨confirmation, rfl, rfl⟩
  | error reason => exact .inr ⟨reason, rfl, rfl⟩

/-- An answer places the order exactly when it confirms a number that is not blank. -/
theorem isPlaced_judge_iff {answer : Except FetchError Confirmation} :
    (Outcome.ofResult (judge answer)).isPlaced = true ↔
      ∃ number : OrderNumber, answer = .ok ⟨number⟩ ∧
        ∃ c ∈ number.text.toList, isWhiteSpace c = false := by
  constructor
  · intro hplaced
    rcases ofResult_cases (judge answer) with ⟨confirmation, hjudge, -⟩ | ⟨reason, -, hfailed⟩
    · obtain ⟨hanswer, hblank⟩ := judge_eq_ok_iff.1 hjudge
      exact ⟨confirmation.orderNumber, hanswer, isBlank_eq_false_iff.1 hblank⟩
    · rw [hfailed] at hplaced
      cases hplaced
  · rintro ⟨number, hanswer, hcharacter⟩
    have hjudge : judge answer = .ok ⟨number⟩ :=
      judge_eq_ok_iff.2 ⟨hanswer, isBlank_eq_false_iff.2 hcharacter⟩
    rw [hjudge]
    rfl

/-! ### Steps -/

/-- While no submission is pending, one with lines is sent and one without has failed. -/
theorem begin_clear (form : OrderForm) (cart : Cart) :
    begin ⟨false⟩ form cart =
      if cart.isEmpty then (.unsent .emptyCart, ⟨false⟩)
      else (.sent (Order.ofForm form cart), ⟨true⟩) := rfl

theorem apply_placed (saved : SavedCart σ) (number : OrderNumber) (redirect : String)
    (around : Surroundings σ τ) :
    apply saved (.placed number redirect) around =
      ⟨(saved.medium.delete saved.key around.storage).2, around.network,
        around.events ++ [.navigate redirect]⟩ := by
  simp only [apply, Surroundings.storing, Surroundings.emit, SavedCart.discard_state]

theorem apply_failed (saved : SavedCart σ) (reason : OrderError) (around : Surroundings σ τ) :
    apply saved (.failed reason) around =
      ⟨around.storage, around.network, around.events ++ [.alert failureAlert]⟩ := rfl

/-- The effects of an outcome leave the services alone. -/
theorem apply_network (saved : SavedCart σ) (outcome : Outcome) (around : Surroundings σ τ) :
    (apply saved outcome around).network = around.network := by
  cases outcome with
  | placed number redirect => rw [apply_placed]
  | failed reason => rw [apply_failed]
  | alreadySubmitting => rfl

theorem submit_empty (saved : SavedCart σ) (services : Services τ) (form : OrderForm) {cart : Cart}
    (h : cart.isEmpty = true) (around : Surroundings σ τ) :
    submit ⟨false⟩ saved services form cart around =
      (.failed .emptyCart, ⟨false⟩, apply saved (.failed .emptyCart) around) := by
  simp only [submit, begin_clear, h, if_true, endUnsent, Outcome.ofResult]

theorem submit_lines (saved : SavedCart σ) (services : Services τ) (form : OrderForm) {cart : Cart}
    (h : cart.isEmpty = false) (around : Surroundings σ τ) :
    submit ⟨false⟩ saved services form cart around =
      finish saved (services.placeOrder (Order.ofForm form cart) around.network).1
        { around with
          network := (services.placeOrder (Order.ofForm form cart) around.network).2 } := by
  simp only [submit, begin_clear, h, Bool.false_eq_true, if_false, Surroundings.calling]

/-! ### Whole submissions -/

/-- Keeping note changes nothing: what is done is done to the medium and the services underneath. -/
theorem submit_logged (medium : Medium σ) (key : String) (services : Services τ)
    (form : OrderForm) (cart : Cart) (storage : σ) (accesses : List Access) (network : τ)
    (requests : List Order) (events : List Event) :
    let run := submit ⟨false⟩ ⟨medium.logged, key⟩ services.logged form cart
      ⟨(storage, accesses), (network, requests), events⟩
    submit ⟨false⟩ ⟨medium, key⟩ services form cart ⟨storage, network, events⟩ =
      (run.1, run.2.1, ⟨run.2.2.storage.1, run.2.2.network.1, run.2.2.events⟩) := by
  cases hempty : cart.isEmpty with
  | true =>
    rw [submit_empty _ _ _ hempty, submit_empty _ _ _ hempty]
    rfl
  | false =>
    rw [submit_lines _ _ _ hempty, submit_lines _ _ _ hempty]
    simp only [finish, Services.logged]
    rcases ofResult_cases (judge (services.placeOrder (Order.ofForm form cart) network).1) with
      ⟨confirmation, -, houtcome⟩ | ⟨reason, -, houtcome⟩
    · simp only [houtcome, apply_placed, Medium.logged]
    · simp only [houtcome, apply_failed]

/-- **Each submission ends in one of two effects.** With any medium, any services, anything stored
    and whatever they answer, a submission that is not refused sends nothing if the cart is empty
    and one order otherwise, with the customer and the address of the form and the lines of the
    cart. It is placed exactly when an order was sent and the answer is a confirmation whose number
    has a character that is no white space; then the storage sees one deletion of the key of the
    cart, and the page of the order is all that is shown. Otherwise it has failed, the storage is
    not accessed and one alert is all that is shown. -/
theorem submit_effects (medium : Medium σ) (key : String) (services : Services τ)
    (form : OrderForm) (cart : Cart) (storage : σ) (network : τ) (events : List Event) :
    let run := submit ⟨false⟩ ⟨medium.logged, key⟩ services.logged form cart
      ⟨(storage, []), (network, []), events⟩
    let outcome := run.1
    let around := run.2.2
    let answer := (services.placeOrder (Order.ofForm form cart) network).1
    submit ⟨false⟩ ⟨medium, key⟩ services form cart ⟨storage, network, events⟩ =
        (outcome, run.2.1, ⟨around.storage.1, around.network.1, around.events⟩) ∧
      around.network.2 =
        (if cart.lines = [] then [] else [⟨form.customer, form.deliveryAddress, cart.lines⟩]) ∧
      (outcome.isPlaced = true ↔
        cart.lines ≠ [] ∧ ∃ number : OrderNumber, answer = .ok ⟨number⟩ ∧
          ∃ c ∈ number.text.toList, isWhiteSpace c = false) ∧
      (outcome.isPlaced = true → ∃ number : OrderNumber, answer = .ok ⟨number⟩ ∧
        outcome = .placed number ("/orders/" ++ number.text) ∧
        around.storage = ((medium.delete key storage).2, [.delete key]) ∧
        around.events = events ++ [.navigate ("/orders/" ++ number.text)]) ∧
      (outcome.isPlaced = false → (∃ reason, outcome = .failed reason) ∧
        around.storage = (storage, []) ∧
        around.events = events ++ [.alert "Order creation failed"]) := by
  refine ⟨submit_logged medium key services form cart storage [] network [] events, ?_⟩
  cases hempty : cart.isEmpty with
  | true =>
    have hlines : cart.lines = [] := by simpa [Cart.isEmpty] using hempty
    rw [submit_empty _ _ _ hempty]
    simp [hlines, Outcome.isPlaced, apply_failed, failureAlert]
  | false =>
    have hlines : cart.lines ≠ [] := by simpa [Cart.isEmpty] using hempty
    rw [submit_lines _ _ _ hempty]
    simp only [finish, Services.logged]
    refine ⟨?_, ?_, ?_⟩
    · rw [apply_network]
      simp [hlines, Order.ofForm]
    · simp only [isPlaced_judge_iff, ne_eq, hlines, not_false_eq_true, true_and]
    · rcases ofResult_cases (judge (services.placeOrder (Order.ofForm form cart) network).1) with
        ⟨confirmation, hjudge, houtcome⟩ | ⟨reason, -, houtcome⟩
      · rw [houtcome, apply_placed]
        refine ⟨?_, by simp [Outcome.isPlaced]⟩
        intro _
        exact ⟨confirmation.orderNumber, (judge_eq_ok_iff.1 hjudge).1, rfl, rfl, rfl⟩
      · rw [houtcome, apply_failed]
        refine ⟨by simp [Outcome.isPlaced], ?_⟩
        intro _
        exact ⟨⟨reason, rfl⟩, rfl, rfl⟩

end Submission

end Bookshop
