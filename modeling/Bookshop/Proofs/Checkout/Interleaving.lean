import Bookshop.Proofs.Checkout.Outcome

/-!
# Submissions side by side

Any number of calls to submit may be under way at one desk, and between two steps of them the other
pages of the shop may do what they like. A call is begun and either refused or admitted; an admitted
one with lines sends them and waits, until the answer comes or it is dropped.

The main statement is `interleaving_safe`, about the desk after every list of moves. What carries it
is that the flag of the submission counts the calls that wait: `Orderly` is kept by each move.
-/

namespace Bookshop

variable {σ τ : Type}

/-! ### The desk -/

/-- How far a call has come. -/
inductive Stage where
  /-- It waits for the answer of the service. -/
  | pending
  | ended (outcome : Outcome)
  | dropped
deriving DecidableEq, Repr

/-- A call to submit: what was passed to it, how far it has come, and the orders it has sent. -/
structure Attempt where
  form : OrderForm
  cart : Cart
  stage : Stage
  sent : List Order
deriving DecidableEq, Repr

namespace Attempt

def isPending (attempt : Attempt) : Bool := attempt.stage = .pending

def isRefused (attempt : Attempt) : Bool := attempt.stage = .ended .alreadySubmitting

/-- The orders that the call has to send: the one of its form and its cart, unless it was refused
    or the cart is empty. -/
def due (attempt : Attempt) : List Order :=
  if attempt.isRefused ∨ attempt.cart.isEmpty then [] else [Order.ofForm attempt.form attempt.cart]

def passed (attempt : Attempt) : OrderForm × Cart := (attempt.form, attempt.cart)

end Attempt

/-- One submission with the calls to it in the order of their beginnings, and what is around. -/
structure Desk (σ τ : Type) where
  submission : Submission
  attempts : List Attempt
  around : Surroundings σ τ

/-- Something that happens at the desk or around it. A call is named by its place in the order of
    beginnings. -/
inductive Move (σ τ : Type) where
  | start (form : OrderForm) (cart : Cart)
  | reply (number : Nat) (answer : Except FetchError Confirmation)
  | drop (number : Nat)
  /-- Whatever other pages do. -/
  | elsewhere (change : Surroundings σ τ → Surroundings σ τ)

namespace Desk

def opened (around : Surroundings σ τ) : Desk σ τ := ⟨{}, [], around⟩

def start (saved : SavedCart σ) (form : OrderForm) (cart : Cart) (desk : Desk σ τ) : Desk σ τ :=
  match desk.submission.begin form cart with
  | (.refused, submission) =>
    ⟨submission, desk.attempts ++ [⟨form, cart, .ended .alreadySubmitting, []⟩], desk.around⟩
  | (.unsent reason, submission) =>
    let (outcome, around) := Submission.endUnsent saved reason desk.around
    ⟨submission, desk.attempts ++ [⟨form, cart, .ended outcome, []⟩], around⟩
  | (.sent order, submission) =>
    ⟨submission, desk.attempts ++ [⟨form, cart, .pending, [order]⟩], desk.around⟩

/-- The answer for a call comes. Nobody waits for it unless the call is pending. -/
def reply (saved : SavedCart σ) (number : Nat) (answer : Except FetchError Confirmation)
    (desk : Desk σ τ) : Desk σ τ :=
  match desk.attempts[number]? with
  | some attempt =>
    if attempt.isPending then
      let (outcome, submission, around) := Submission.finish saved answer desk.around
      ⟨submission, desk.attempts.set number { attempt with stage := .ended outcome }, around⟩
    else desk
  | none => desk

/-- A call is dropped. That ends it only while it is pending. -/
def drop (number : Nat) (desk : Desk σ τ) : Desk σ τ :=
  match desk.attempts[number]? with
  | some attempt =>
    if attempt.isPending then
      ⟨Submission.drop, desk.attempts.set number { attempt with stage := .dropped }, desk.around⟩
    else desk
  | none => desk

def move (saved : SavedCart σ) (desk : Desk σ τ) : Move σ τ → Desk σ τ
  | .start form cart => desk.start saved form cart
  | .reply number answer => desk.reply saved number answer
  | .drop number => desk.drop number
  | .elsewhere change => { desk with around := change desk.around }

def run (saved : SavedCart σ) (desk : Desk σ τ) (moves : List (Move σ τ)) : Desk σ τ :=
  moves.foldl (move saved) desk

def outstanding (desk : Desk σ τ) : List Order :=
  (desk.attempts.filter Attempt.isPending).flatMap Attempt.sent

end Desk

/-- What was passed to the call that the move begins. -/
def Move.passed? : Move σ τ → Option (OrderForm × Cart)
  | .start form cart => some (form, cart)
  | _ => none

namespace Desk

/-! ### What each move does -/

/-- While a call waits, another one is refused: it is the only change. -/
theorem start_set (saved : SavedCart σ) (form : OrderForm) (cart : Cart) {desk : Desk σ τ}
    (h : desk.submission.pending = true) :
    desk.start saved form cart =
      { desk with attempts := desk.attempts ++ [⟨form, cart, .ended .alreadySubmitting, []⟩] } := by
  simp only [start, Submission.begin, h, if_true]

theorem start_empty (saved : SavedCart σ) (form : OrderForm) {cart : Cart} {desk : Desk σ τ}
    (h : desk.submission.pending = false) (hcart : cart.isEmpty = true) :
    desk.start saved form cart =
      ⟨desk.submission, desk.attempts ++ [⟨form, cart, .ended (.failed .emptyCart), []⟩],
        Submission.apply saved (.failed .emptyCart) desk.around⟩ := by
  simp only [start, Submission.begin, h, hcart, Bool.false_eq_true, if_false, if_true,
    Submission.endUnsent, Outcome.ofResult]

theorem start_lines (saved : SavedCart σ) (form : OrderForm) {cart : Cart} {desk : Desk σ τ}
    (h : desk.submission.pending = false) (hcart : cart.isEmpty = false) :
    desk.start saved form cart =
      ⟨⟨true⟩, desk.attempts ++ [⟨form, cart, .pending, [Order.ofForm form cart]⟩],
        desk.around⟩ := by
  simp only [start, Submission.begin, h, hcart, Bool.false_eq_true, if_false]

theorem reply_pending (saved : SavedCart σ) {number : Nat} {attempt : Attempt} {desk : Desk σ τ}
    (h : desk.attempts[number]? = some attempt) (hpending : attempt.isPending = true)
    (answer : Except FetchError Confirmation) :
    desk.reply saved number answer =
      ⟨⟨false⟩, desk.attempts.set number
          { attempt with stage := .ended (Outcome.ofResult (Submission.judge answer)) },
        Submission.apply saved (Outcome.ofResult (Submission.judge answer)) desk.around⟩ := by
  simp only [reply, h, hpending, if_true, Submission.finish]

theorem drop_pending {number : Nat} {attempt : Attempt} {desk : Desk σ τ}
    (h : desk.attempts[number]? = some attempt) (hpending : attempt.isPending = true) :
    desk.drop number =
      ⟨⟨false⟩, desk.attempts.set number { attempt with stage := .dropped }, desk.around⟩ := by
  simp only [drop, h, hpending, if_true, Submission.drop]

/-- A move begins a call, ends the waiting one, or leaves the desk as it was. An ended call was not
    refused. -/
theorem move_cases (saved : SavedCart σ) (desk : Desk σ τ) (m : Move σ τ) :
    (∃ form cart, m = .start form cart ∧ desk.move saved m = desk.start saved form cart) ∨
    (∃ number attempt stage around, m.passed? = none ∧
      desk.attempts[number]? = some attempt ∧ attempt.isPending = true ∧
      (stage = .dropped ∨ ∃ result, stage = .ended (Outcome.ofResult result)) ∧
      desk.move saved m =
        ⟨⟨false⟩, desk.attempts.set number { attempt with stage := stage }, around⟩) ∨
    (∃ around, m.passed? = none ∧ desk.move saved m = { desk with around := around }) := by
  cases m with
  | start form cart => exact .inl ⟨form, cart, rfl, rfl⟩
  | reply number answer =>
    right
    cases hattempt : desk.attempts[number]? with
    | none => exact .inr ⟨desk.around, rfl, by simp only [move, reply, hattempt]⟩
    | some attempt =>
      cases hpending : attempt.isPending with
      | false =>
        refine .inr ⟨desk.around, rfl, ?_⟩
        simp only [move, reply, hattempt, hpending, Bool.false_eq_true, if_false]
      | true =>
        exact .inl ⟨number, attempt, _, _, rfl, hattempt, hpending, .inr ⟨_, rfl⟩,
          reply_pending saved hattempt hpending answer⟩
  | drop number =>
    right
    cases hattempt : desk.attempts[number]? with
    | none => exact .inr ⟨desk.around, rfl, by simp only [move, drop, hattempt]⟩
    | some attempt =>
      cases hpending : attempt.isPending with
      | false =>
        refine .inr ⟨desk.around, rfl, ?_⟩
        simp only [move, drop, hattempt, hpending, Bool.false_eq_true, if_false]
      | true =>
        exact .inl ⟨number, attempt, _, _, rfl, hattempt, hpending, .inl rfl,
          drop_pending hattempt hpending⟩
  | elsewhere change => exact .inr (.inr ⟨change desk.around, rfl, rfl⟩)

/-! ### The invariant -/

/-- The flag counts the waiting calls, and every call has sent just what it has to send. -/
structure Orderly (desk : Desk σ τ) : Prop where
  flag : desk.attempts.countP Attempt.isPending = if desk.submission.pending then 1 else 0
  sent : ∀ attempt ∈ desk.attempts, attempt.sent = attempt.due

theorem opened_orderly (around : Surroundings σ τ) : (opened around).Orderly :=
  ⟨rfl, fun _ h => nomatch h⟩

/-- A new call keeps the desk orderly if it waits just when the flag is newly set. -/
theorem Orderly.append {desk : Desk σ τ} (h : desk.Orderly) {attempt : Attempt}
    (hsent : attempt.sent = attempt.due) {submission : Submission}
    (hflag : (if submission.pending then 1 else 0) =
      (if desk.submission.pending then 1 else 0) + if attempt.isPending then 1 else 0)
    (around : Surroundings σ τ) :
    Orderly ⟨submission, desk.attempts ++ [attempt], around⟩ := by
  constructor
  · simp only [List.countP_append, List.countP_singleton, h.flag, hflag]
  · intro other hother
    rcases List.mem_append.1 hother with hother | hother
    · exact h.sent other hother
    · rw [List.mem_singleton.1 hother]
      exact hsent

theorem Orderly.start {desk : Desk σ τ} (h : desk.Orderly) (saved : SavedCart σ)
    (form : OrderForm) (cart : Cart) : (desk.start saved form cart).Orderly := by
  cases hflag : desk.submission.pending with
  | true =>
    rw [start_set saved form cart hflag]
    exact h.append rfl (by simp [Attempt.isPending]) _
  | false =>
    cases hcart : cart.isEmpty with
    | true =>
      rw [start_empty saved form hflag hcart]
      refine h.append ?_ (by simp [Attempt.isPending]) _
      simp only [Attempt.due, hcart, or_true, if_true]
    | false =>
      rw [start_lines saved form hflag hcart]
      refine h.append ?_ (by simp [Attempt.isPending, hflag]) _
      simp [Attempt.due, Attempt.isRefused, hcart]

/-- The end of the waiting call keeps the desk orderly when the flag is cleared. -/
theorem Orderly.settle {desk : Desk σ τ} (h : desk.Orderly) {number : Nat} {attempt : Attempt}
    (hattempt : desk.attempts[number]? = some attempt) (hpending : attempt.isPending = true)
    {stage : Stage} (hstage : stage = .dropped ∨ ∃ result, stage = .ended (Outcome.ofResult result))
    (around : Surroundings σ τ) :
    Orderly ⟨⟨false⟩, desk.attempts.set number { attempt with stage := stage }, around⟩ := by
  obtain ⟨hnumber, hget⟩ := List.getElem?_eq_some_iff.1 hattempt
  -- A call that ended like this neither waits nor was it refused.
  have hended : stage ≠ .pending ∧ stage ≠ .ended .alreadySubmitting := by
    rcases hstage with rfl | ⟨result, rfl⟩
    · simp
    · cases result <;> simp [Outcome.ofResult]
  have hwaiting : attempt.stage = .pending := by simpa [Attempt.isPending] using hpending
  constructor
  · -- The waiting call was the one that the flag counted.
    have hone : desk.attempts.countP Attempt.isPending ≤ 1 := by
      rw [h.flag]
      split <;> omega
    simp only [List.countP_set hnumber, hget, Attempt.isPending, hwaiting, decide_true, if_true,
      hended.1, decide_false, Bool.false_eq_true, if_false]
    omega
  · intro other hother
    rcases List.mem_or_eq_of_mem_set hother with hother | rfl
    · exact h.sent other hother
    · have hsent := h.sent attempt (List.mem_of_getElem? hattempt)
      simpa [Attempt.due, Attempt.isRefused, hended.2, hwaiting] using hsent

theorem Orderly.move {desk : Desk σ τ} (h : desk.Orderly) (saved : SavedCart σ) (m : Move σ τ) :
    (desk.move saved m).Orderly := by
  rcases move_cases saved desk m with ⟨form, cart, -, heq⟩ |
    ⟨number, attempt, stage, around, -, hattempt, hpending, hstage, heq⟩ | ⟨around, -, heq⟩
  · rw [heq]
    exact h.start saved form cart
  · rw [heq]
    exact h.settle hattempt hpending hstage around
  · rw [heq]
    exact ⟨h.flag, h.sent⟩

theorem Orderly.run {desk : Desk σ τ} (h : desk.Orderly) (saved : SavedCart σ)
    (moves : List (Move σ τ)) : (desk.run saved moves).Orderly := by
  induction moves generalizing desk with
  | nil => exact h
  | cons m moves ih => exact ih (h.move saved m)

/-- The desk remembers what was passed to each call when it began. -/
theorem passed_move (saved : SavedCart σ) (desk : Desk σ τ) (m : Move σ τ) :
    (desk.move saved m).attempts.map Attempt.passed =
      desk.attempts.map Attempt.passed ++ m.passed?.toList := by
  rcases move_cases saved desk m with ⟨form, cart, rfl, heq⟩ |
    ⟨number, attempt, stage, around, hpassed, hattempt, -, -, heq⟩ | ⟨around, hpassed, heq⟩
  · rw [heq]
    unfold start
    split <;> simp [Attempt.passed, Move.passed?]
  · rw [heq, hpassed, List.map_set]
    simp only [Option.toList_none, List.append_nil]
    -- The place that is set holds what it held, as far as can be seen here.
    apply List.ext_getElem?
    intro i
    rw [List.getElem?_set]
    split
    · next h => subst h; split <;> simp_all [Attempt.passed]
    · rfl
  · rw [heq, hpassed]
    simp

theorem passed_run (saved : SavedCart σ) (desk : Desk σ τ) (moves : List (Move σ τ)) :
    (desk.run saved moves).attempts.map Attempt.passed =
      desk.attempts.map Attempt.passed ++ moves.filterMap Move.passed? := by
  induction moves generalizing desk with
  | nil => simp [run]
  | cons m moves ih =>
    rw [run, List.foldl_cons, ← run, ih, passed_move, List.append_assoc]
    cases hpassed : m.passed? <;> simp [hpassed]

/-! ### Safety -/

/-- Calls that each sent one order at most have no more orders outstanding than there are calls. -/
theorem length_flatMap_sent_le {attempts : List Attempt}
    (h : ∀ attempt ∈ attempts, attempt.sent.length ≤ 1) :
    (attempts.flatMap Attempt.sent).length ≤ attempts.length := by
  induction attempts with
  | nil => exact Nat.le_refl 0
  | cons attempt attempts ih =>
    have hfirst := h attempt (by simp)
    have hrest := ih fun other hother => h other (by simp [hother])
    simp only [List.flatMap_cons, List.length_append, List.length_cons]
    omega

theorem Attempt.length_due_le (attempt : Attempt) : attempt.due.length ≤ 1 := by
  unfold Attempt.due
  split <;> simp

theorem Orderly.length_outstanding_le {desk : Desk σ τ} (h : desk.Orderly) :
    desk.outstanding.length ≤ 1 := by
  have hsent : ∀ attempt ∈ desk.attempts.filter Attempt.isPending, attempt.sent.length ≤ 1 := by
    intro attempt hattempt
    rw [h.sent attempt (List.mem_filter.1 hattempt).1]
    exact Attempt.length_due_le attempt
  calc desk.outstanding.length
      ≤ (desk.attempts.filter Attempt.isPending).length := length_flatMap_sent_le hsent
    _ = desk.attempts.countP Attempt.isPending := List.countP_eq_length_filter.symm
    _ ≤ 1 := by rw [h.flag]; split <;> omega

/-- **The submission is safe under every interleaving.** After any moves the flag is set just when
    one admitted call waits, and there are never two; no more than one order is outstanding. Each
    call has sent at most one order, made of the form and the cart passed to it when it began. A
    call that begins while the flag is set is turned away and is the only change; one that begins
    while it is clear is admitted. When the waiting call gets its answer or is dropped, or a call
    without lines has failed, the flag is clear. -/
theorem interleaving_safe (saved : SavedCart σ) (around : Surroundings σ τ)
    (moves : List (Move σ τ)) :
    let desk := (opened around).run saved moves
    (desk.submission.pending = true ↔ desk.attempts.countP Attempt.isPending = 1) ∧
      desk.attempts.countP Attempt.isPending ≤ 1 ∧
      desk.outstanding.length ≤ 1 ∧
      desk.attempts.map Attempt.passed = moves.filterMap Move.passed? ∧
      (∀ attempt ∈ desk.attempts, attempt.sent =
        if attempt.stage = .ended .alreadySubmitting ∨ attempt.cart.lines = [] then []
        else [⟨attempt.form.customer, attempt.form.deliveryAddress, attempt.cart.lines⟩]) ∧
      (desk.submission.pending = true → ∀ form cart, desk.start saved form cart =
        { desk with attempts := desk.attempts ++ [⟨form, cart, .ended .alreadySubmitting, []⟩] }) ∧
      (desk.submission.pending = false → ∀ form cart, ∃ attempt,
        (desk.start saved form cart).attempts = desk.attempts ++ [attempt] ∧
          attempt.stage ≠ .ended .alreadySubmitting ∧
          (desk.start saved form cart).submission.pending = attempt.isPending) ∧
      (∀ number attempt, desk.attempts[number]? = some attempt → attempt.isPending = true →
        (∀ answer, (desk.reply saved number answer).submission.pending = false ∧
          (desk.reply saved number answer).attempts = desk.attempts.set number
            { attempt with stage := .ended (Outcome.ofResult (Submission.judge answer)) }) ∧
        (desk.drop number).submission.pending = false ∧
        (desk.drop number).attempts =
          desk.attempts.set number { attempt with stage := .dropped }) := by
  intro desk
  have horderly : desk.Orderly := (opened_orderly around).run saved moves
  have hflag := horderly.flag
  have houtstanding := horderly.length_outstanding_le
  have hpassed := passed_run saved (opened around) moves
  refine ⟨?_, ?_, houtstanding, hpassed, ?_, ?_, ?_, ?_⟩
  · rw [hflag]
    cases desk.submission.pending <;> simp
  · rw [hflag]
    split <;> omega
  · intro attempt hattempt
    rw [horderly.sent attempt hattempt]
    simp [Attempt.due, Attempt.isRefused, Cart.isEmpty, Order.ofForm]
  · intro h form cart
    exact start_set saved form cart h
  · intro h form cart
    cases hcart : cart.isEmpty with
    | true =>
      rw [start_empty saved form h hcart]
      exact ⟨_, rfl, by simp, h⟩
    | false =>
      rw [start_lines saved form h hcart]
      exact ⟨_, rfl, by simp, rfl⟩
  · intro number attempt hattempt hpending
    constructor
    · intro answer
      rw [reply_pending saved hattempt hpending]
      exact ⟨rfl, rfl⟩
    · rw [drop_pending hattempt hpending]
      exact ⟨rfl, rfl⟩

/-- A call that begins at a quiet desk and gets its answer is a whole submission, whose service
    answers in between. -/
theorem start_reply_eq_submit (saved : SavedCart σ) (services : Services τ) (form : OrderForm)
    {cart : Cart} (hcart : cart.isEmpty = false) (around : Surroundings σ τ) :
    let called := around.calling (services.placeOrder (Order.ofForm form cart))
    let desk := (opened around).run saved
      [.start form cart, .elsewhere fun _ => called.2, .reply 0 called.1]
    let whole := Submission.submit ⟨false⟩ saved services form cart around
    desk.attempts.map Attempt.stage = [.ended whole.1] ∧ desk.submission = whole.2.1 ∧
      desk.around = whole.2.2 := by
  simp only [run, List.foldl_cons, List.foldl_nil, move]
  rw [start_lines saved form rfl hcart, reply_pending saved rfl rfl,
    Submission.submit_lines saved services form hcart]
  exact ⟨rfl, rfl, rfl⟩

end Desk

end Bookshop
