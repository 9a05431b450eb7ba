import Bookshop.Cart.Saved
import Bookshop.Checkout.Services
import Bookshop.Page.Event

/-!
# Submitting orders

A submission sends the lines of a cart once and ends in one of two ways. It is placed when the order
service gives it a number: the saved cart is discarded and the page that confirms the order is
opened. It has failed in every other case: the saved cart stays and an alert is shown.

A submission takes two steps, one before and one after the answer of the service, and other things
may happen in between. While one is pending no other is begun. A pending submission may also be
dropped; then nothing comes of it.
-/

namespace Bookshop

/-! ### Outcomes -/

/-- Why an order is not placed. -/
inductive OrderError where
  | emptyCart
  /-- The service answered with a blank order number. -/
  | missingNumber
  | fetch (cause : FetchError)
deriving DecidableEq, Repr

def OrderError.message : OrderError → String
  | .emptyCart => "Cart is empty"
  | .missingNumber => "Order service returned no order number"
  | .fetch cause => cause.message

inductive Outcome where
  | placed (number : OrderNumber) (redirect : String)
  | failed (reason : OrderError)
  | alreadySubmitting
deriving DecidableEq, Repr

namespace Outcome

def ofResult : Except OrderError Confirmation → Outcome
  | .ok confirmation =>
    .placed confirmation.orderNumber (confirmationPath confirmation.orderNumber)
  | .error reason => .failed reason

def isPlaced : Outcome → Bool
  | .placed _ _ => true
  | _ => false

end Outcome

/-! ### Steps -/

/-- Whether a submission is pending. -/
structure Submission where
  pending : Bool := false
deriving DecidableEq, Repr

inductive Beginning where
  | refused
  | unsent (reason : OrderError)
  | sent (order : Order)
deriving DecidableEq, Repr

namespace Submission

def failureAlert : String := "Order creation failed"

def begin (submission : Submission) (form : OrderForm) (cart : Cart) : Beginning × Submission :=
  if submission.pending then (.refused, submission)
  else if cart.isEmpty then (.unsent .emptyCart, submission)
  else (.sent (Order.ofForm form cart), ⟨true⟩)

/-- What the answer of the service means: an order without a number is no order. -/
def judge (answer : Except FetchError Confirmation) : Except OrderError Confirmation :=
  match answer with
  | .error e => .error (.fetch e)
  | .ok confirmation =>
    if confirmation.orderNumber.isBlank then .error .missingNumber else .ok confirmation

variable {σ τ : Type}

/-- What follows from an outcome. The confirming page is opened even if the saved cart cannot be
    discarded. -/
def apply (saved : SavedCart σ) (outcome : Outcome) (around : Surroundings σ τ) :
    Surroundings σ τ :=
  match outcome with
  | .placed _ redirect =>
    let (_, around) := around.storing saved.discard
    around.emit (.navigate redirect)
  | .failed _ => around.emit (.alert failureAlert)
  | .alreadySubmitting => around

def endUnsent (saved : SavedCart σ) (reason : OrderError) (around : Surroundings σ τ) :
    Outcome × Surroundings σ τ :=
  let outcome := Outcome.ofResult (.error reason)
  (outcome, apply saved outcome around)

def finish (saved : SavedCart σ) (answer : Except FetchError Confirmation)
    (around : Surroundings σ τ) : Outcome × Submission × Surroundings σ τ :=
  let outcome := Outcome.ofResult (judge answer)
  (outcome, ⟨false⟩, apply saved outcome around)

/-- The end of a pending submission that is given up. -/
def drop : Submission := ⟨false⟩

/-- A whole submission: it begins, the service answers, and it ends. -/
def submit (submission : Submission) (saved : SavedCart σ) (services : Services τ)
    (form : OrderForm) (cart : Cart) (around : Surroundings σ τ) :
    Outcome × Submission × Surroundings σ τ :=
  match submission.begin form cart with
  | (.refused, submission) => (.alreadySubmitting, submission, around)
  | (.unsent reason, submission) =>
    let (outcome, around) := endUnsent saved reason around
    (outcome, submission, around)
  | (.sent order, _) =>
    let (answer, around) := around.calling (services.placeOrder order)
    finish saved answer around

end Submission

end Bookshop
