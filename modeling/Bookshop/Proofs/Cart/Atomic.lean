import Bookshop.Proofs.Cart.Entry
import Bookshop.Proofs.Cart.Saved

/-!
# Uses of a saved cart are all or nothing

The medium of a saved cart may fail in any access, and the entry of the cart may be anything. A
change reads the entry once and writes it at most once; `Course` lists the five ways that it can
go, with what it answers, what is stored afterwards and which accesses it made.

The main statement is `uses_atomic`: a use that fails has changed nothing, and a failure of the
medium is what it answers.
-/

namespace Bookshop

/-! ### What uses are about -/

/-- The change of the cart that a use asks for, if it asks for one. -/
def Use.change? : Use → Option Cart.Change
  | .add product quantity => some (.add product.code product.name product.price quantity)
  | .update code quantity => some (.update code quantity)
  | .remove code => some (.remove code)
  | .discard => none
  | .look => none

/-- The product whose line is updated or removed. -/
def Cart.Change.line? : Cart.Change → Option ProductCode
  | .add _ _ _ _ => none
  | .update code _ => some code
  | .remove code => some code

def Answer.failure? : Answer → Option CartError
  | .changed (.error e) => some e
  | .discarded (.error e) => some e
  | _ => none

theorem Use.kinds (use : Use) :
    (∃ change, use.change? = some change) ∨ use = .discard ∨ use = .look := by
  cases use with
  | discard => exact .inr (.inl rfl)
  | look => exact .inr (.inr rfl)
  | _ => exact .inl ⟨_, rfl⟩

theorem Use.onSaved_change {σ : Type} {use : Use} {change : Cart.Change}
    (h : use.change? = some change) (saved : SavedCart σ) (state : σ) :
    use.onSaved saved state = (.changed (saved.change change.outcome state).1,
      (saved.change change.outcome state).2) := by
  cases use with
  | add product quantity =>
    cases h
    rfl
  | update code quantity =>
    cases h
    rfl
  | remove code =>
    cases h
    rfl
  | discard => cases h
  | look => cases h

theorem Use.onCart_change {use : Use} {change : Cart.Change} (h : use.change? = some change)
    (cart : Cart) : use.onCart cart = Answer.ofChange cart (change.outcome cart) := by
  cases use with
  | add product quantity =>
    cases h
    rfl
  | update code quantity =>
    cases h
    rfl
  | remove code =>
    cases h
    rfl
  | discard => cases h
  | look => cases h

namespace Cart

/-- An update or a removal of a product without a line does not take effect. -/
theorem Change.outcome_of_absent {change : Change} {code : ProductCode} {cart : Cart}
    (hline : change.line? = some code) (h : code ∉ cart.lines.map Line.code) (changed : Cart) :
    change.outcome cart ≠ .ok (some changed) := by
  intro houtcome
  cases change with
  | add code' name price quantity => cases hline
  | update code' quantity =>
    cases hline
    simp only [outcome, Cart.update] at houtcome
    split at houtcome
    · rw [remove_of_absent h] at houtcome
      cases houtcome
    split at houtcome
    · cases houtcome
    rw [line?_of_absent h] at houtcome
    cases houtcome
  | remove code' =>
    cases hline
    simp only [outcome, remove_of_absent h] at houtcome
    cases houtcome

end Cart

/-! ### The course of a change -/

/-- The ways that a change of a saved cart can go when the accesses to its medium may fail: what it
    answers, what the medium holds afterwards, and the accesses it has made. -/
inductive Course (key : String) (faults : Nat → Option MediumFault) (memory : Memory)
    (edit : Cart → Except CartError (Option Cart)) :
    Except CartError Cart → Memory → List Access → Prop where
  | unread {fault : MediumFault} (hget : faults 0 = some fault) :
      Course key faults memory edit (.error (.storage fault.error)) memory [.get key]
  | refused {e : CartError} (hget : faults 0 = none)
      (hedit : edit (.ofEntry (memory.get? key)) = .error e) :
      Course key faults memory edit (.error e) memory [.get key]
  /-- There was nothing to change. -/
  | idle (hget : faults 0 = none) (hedit : edit (.ofEntry (memory.get? key)) = .ok none) :
      Course key faults memory edit (.ok (.ofEntry (memory.get? key))) memory [.get key]
  | unwritten {changed : Cart} {fault : MediumFault} (hget : faults 0 = none)
      (hedit : edit (.ofEntry (memory.get? key)) = .ok (some changed))
      (hset : faults 1 = some fault) :
      Course key faults memory edit (.error (.storage fault.error)) memory
        [.get key, .set key (SavedLines.codec.write ⟨changed.lines⟩)]
  | written {changed : Cart} (hget : faults 0 = none)
      (hedit : edit (.ofEntry (memory.get? key)) = .ok (some changed)) (hset : faults 1 = none) :
      Course key faults memory edit (.ok changed)
        (memory.insert key (SavedLines.codec.write ⟨changed.lines⟩))
        [.get key, .set key (SavedLines.codec.write ⟨changed.lines⟩)]

namespace Course

variable {key : String} {faults : Nat → Option MediumFault} {memory after : Memory}
  {edit : Cart → Except CartError (Option Cart)} {result : Except CartError Cart}
  {accesses : List Access}

theorem of_error {e : CartError} (h : Course key faults memory edit (.error e) after accesses) :
    after = memory := by
  cases h with
  | unread hget => rfl
  | refused hget hedit => rfl
  | unwritten hget hedit hset => rfl

theorem of_fault (h : Course key faults memory edit result after accesses) {fault : MediumFault}
    (hfault : faults 0 = some fault) :
    result = .error (.storage fault.error) ∧ accesses = [.get key] := by
  cases h with
  | unread hget =>
    rw [hfault] at hget
    cases hget
    exact ⟨rfl, rfl⟩
  | refused hget hedit => simp [hfault] at hget
  | idle hget hedit => simp [hfault] at hget
  | unwritten hget hedit hset => simp [hfault] at hget
  | written hget hedit hset => simp [hfault] at hget

/-- The entry is read, and it is written only after it could be read. -/
theorem accesses_eq (h : Course key faults memory edit result after accesses) :
    accesses = [.get key] ∨ faults 0 = none ∧ ∃ bytes, accesses = [.get key, .set key bytes] ∧
      ∀ fault, faults 1 = some fault → result = .error (.storage fault.error) := by
  cases h with
  | unread hget => exact .inl rfl
  | refused hget hedit => exact .inl rfl
  | idle hget hedit => exact .inl rfl
  | unwritten hget hedit hset =>
    refine .inr ⟨hget, _, rfl, ?_⟩
    intro fault hfault
    rw [hfault] at hset
    cases hset
    rfl
  | written hget hedit hset =>
    refine .inr ⟨hget, _, rfl, ?_⟩
    intro fault hfault
    simp [hfault] at hset

/-- An edit that does not take effect is not written. -/
theorem of_no_effect (h : Course key faults memory edit result after accesses)
    (hedit : ∀ changed, edit (.ofEntry (memory.get? key)) ≠ .ok (some changed)) :
    accesses = [.get key] ∧ after = memory := by
  cases h with
  | unread hget => exact ⟨rfl, rfl⟩
  | refused hget _ => exact ⟨rfl, rfl⟩
  | idle hget _ => exact ⟨rfl, rfl⟩
  | unwritten hget heffect hset => exact absurd heffect (hedit _)
  | written hget heffect hset => exact absurd heffect (hedit _)

/-- Without failures of the medium the edit of the cart read is all that counts. -/
theorem of_faultless (h : Course key faults memory edit result after accesses)
    (hfaults : ∀ n, faults n = none) :
    .changed result = (Answer.ofChange (.ofEntry (memory.get? key))
      (edit (.ofEntry (memory.get? key)))).1 := by
  cases h with
  | unread hget => simp [hfaults] at hget
  | refused hget hedit => rw [hedit, Answer.ofChange]
  | idle hget hedit => rw [hedit, Answer.ofChange]
  | unwritten hget hedit hset => simp [hfaults] at hset
  | written hget hedit hset => rw [hedit, Answer.ofChange]

end Course

/-! ### Watching -/

section Logged

variable {σ : Type} (medium : Medium σ) (key : String) (state : σ) (log : List Access)

theorem SavedCart.load_logged :
    (⟨medium.logged, key⟩ : SavedCart (σ × List Access)).load (state, log) =
      (((⟨medium, key⟩ : SavedCart σ).load state).1,
        ((⟨medium, key⟩ : SavedCart σ).load state).2, log ++ [.get key]) := by
  unfold load Medium.load
  cases hget : medium.get key state with
  | mk answer after =>
    simp only [Medium.logged, hget]
    cases answer with
    | error e => cases e <;> rfl
    | ok entry =>
      cases entry with
      | none => rfl
      | some bytes =>
        cases hread : SavedLines.codec.read bytes with
        | error e => simp only [hread]
        | ok document => cases hlines : Cart.ofLines document.lines <;> simp only [hread, hlines]

theorem SavedCart.keep_logged (cart : Cart) :
    ((⟨medium.logged, key⟩ : SavedCart (σ × List Access)).keep cart (state, log)).1 =
        ((⟨medium, key⟩ : SavedCart σ).keep cart state).1 ∧
      ((⟨medium.logged, key⟩ : SavedCart (σ × List Access)).keep cart (state, log)).2.1 =
        ((⟨medium, key⟩ : SavedCart σ).keep cart state).2 := by
  unfold keep save Medium.save
  cases hset : medium.set key (SavedLines.codec.write ⟨cart.lines⟩) state with
  | mk answer after => cases answer <;> simp [Medium.logged, hset]

/-- Watching the medium changes nothing. -/
theorem Use.onSaved_logged (use : Use) :
    let run := use.onSaved ⟨medium.logged, key⟩ (state, log)
    use.onSaved ⟨medium, key⟩ state = (run.1, run.2.1) := by
  rcases use.kinds with ⟨change, hchange⟩ | rfl | rfl
  · simp only [Use.onSaved_change hchange, SavedCart.change, SavedCart.load_logged]
    cases hload : (⟨medium, key⟩ : SavedCart σ).load state with
    | mk answer after =>
      cases answer with
      | error e => rfl
      | ok cart =>
        cases hedit : change.outcome cart with
        | error e => simp only [hedit]
        | ok changed? =>
          cases changed? with
          | none => simp only [hedit]
          | some changed =>
            obtain ⟨hanswer, hafter⟩ :=
              SavedCart.keep_logged medium key after (log ++ [.get key]) changed
            simp only [hedit, hanswer, hafter]
  · simp only [Use.onSaved, SavedCart.discard]
    cases hdelete : medium.delete key state with
    | mk answer after => cases answer <;> simp [Medium.logged, hdelete]
  · simp only [Use.onSaved, SavedCart.current, SavedCart.load_logged]
    cases hload : (⟨medium, key⟩ : SavedCart σ).load state with
    | mk answer after => cases answer <;> rfl

end Logged

namespace SavedCart

variable (key : String) (faults : Nat → Option MediumFault) (memory : Memory)

/-- The cart saved under the key in a memory that fails as the schedule has it, and that is watched. -/
def watched : SavedCart ((Memory × Nat) × List Access) :=
  ⟨(Memory.medium.failing faults).logged, key⟩

theorem watched_get {fault? : Option MediumFault} (h : faults 0 = fault?) :
    (watched key faults).medium.get (watched key faults).key ((memory, 0), []) =
      ((match fault? with
        | some fault => .error fault.error
        | none => .ok (memory.get? key)), (memory, 1), [.get key]) := by
  cases fault? with
  | some fault => simp [watched, Medium.logged, Medium.failing, failingAccess, h]
  | none => simp [watched, Medium.logged, Medium.failing, failingAccess, Memory.medium, h]

theorem watched_keep {fault? : Option MediumFault} (h : faults 1 = fault?) (changed : Cart) :
    (watched key faults).keep changed ((memory, 1), [.get key]) =
      match fault? with
      | some fault => (.error (.storage fault.error), (memory, 2),
          [.get key, .set key (SavedLines.codec.write ⟨changed.lines⟩)])
      | none => (.ok changed, (memory.insert key (SavedLines.codec.write ⟨changed.lines⟩), 2),
          [.get key, .set key (SavedLines.codec.write ⟨changed.lines⟩)]) := by
  cases fault? with
  | some fault =>
    simp [watched, keep, save, Medium.save, Medium.logged, Medium.failing, failingAccess, h]
  | none =>
    simp [watched, keep, save, Medium.save, Medium.logged, Medium.failing, failingAccess,
      Memory.medium, h]

theorem change_course (edit : Cart → Except CartError (Option Cart)) :
    let run := (watched key faults).change edit ((memory, 0), [])
    Course key faults memory edit run.1 run.2.1.1 run.2.2 := by
  cases hget : faults 0 with
  | some fault =>
    have hload := load_of_fault (watched_get key faults memory hget)
    simp only [change, hload]
    exact .unread hget
  | none =>
    have hread := watched_get key faults memory hget
    cases hedit : edit (.ofEntry (memory.get? key)) with
    | error e =>
      rw [change_of_error _ hread hedit]
      exact .refused hget hedit
    | ok changed? =>
      cases changed? with
      | none =>
        rw [change_of_none _ hread hedit]
        exact .idle hget hedit
      | some changed =>
        rw [change_of_some _ hread hedit]
        cases hset : faults 1 with
        | some fault =>
          simp only [watched_keep key faults memory hset]
          exact .unwritten hget hedit hset
        | none =>
          simp only [watched_keep key faults memory hset]
          exact .written hget hedit hset

/-- Deleting is one access, which is all that can fail. -/
theorem watched_discard :
    (watched key faults).discard ((memory, 0), []) =
      match faults 0 with
      | some fault => (.error (.storage fault.error), (memory, 1), [.delete key])
      | none => (.ok (), (memory.erase key, 1), [.delete key]) := by
  cases hdelete : faults 0 with
  | some fault => simp [watched, discard, Medium.logged, Medium.failing, failingAccess, hdelete]
  | none =>
    simp [watched, discard, Medium.logged, Medium.failing, failingAccess, Memory.medium, hdelete]

/-! ### Uses -/

/-- A use that fails leaves the memory as it was. -/
theorem memory_of_failure (use : Use) {e : CartError}
    (h : (use.onSaved (watched key faults) ((memory, 0), [])).1.failure? = some e) :
    (use.onSaved (watched key faults) ((memory, 0), [])).2.1.1 = memory := by
  rcases use.kinds with ⟨change, hchange⟩ | rfl | rfl
  · have hcourse := change_course key faults memory change.outcome
    rw [Use.onSaved_change hchange] at h ⊢
    simp only at h hcourse ⊢
    generalize (watched key faults).change change.outcome ((memory, 0), []) = run at h hcourse ⊢
    obtain ⟨result, state, accesses⟩ := run
    cases result with
    | error e => exact hcourse.of_error
    | ok cart => cases h
  · simp only [Use.onSaved, watched_discard] at h ⊢
    cases hdelete : faults 0 with
    | some fault => rfl
    | none =>
      rw [hdelete] at h
      cases h
  · cases h

/-- Without failures of the medium a use answers what it answers on the cart read. -/
theorem answer_of_faultless (use : Use) (h : ∀ n, faults n = none) :
    (use.onSaved (watched key faults) ((memory, 0), [])).1 =
      (use.onCart (.ofEntry (memory.get? key))).1 := by
  rcases use.kinds with ⟨change, hchange⟩ | rfl | rfl
  · rw [Use.onSaved_change hchange, Use.onCart_change hchange]
    exact (change_course key faults memory change.outcome).of_faultless h
  · simp only [Use.onSaved, watched_discard, h, Use.onCart]
  · simp only [Use.onSaved, current_of_get (watched_get key faults memory (h 0)), Use.onCart]

/-- **Uses of a saved cart are all or nothing.** The memory holds anything, and each access to it
    may fail by itself. A use that fails leaves every entry as it was. A change reads the entry
    first; if that fails, the failure is what it answers, and nothing else is accessed. It writes at
    most once, after it has read, and if that fails, the failure is what it answers again. An update
    or a removal of a product that is not in the cart read writes nothing, whatever the cart was
    read from. Deleting is one access, whose failure is answered. If no access fails, the answer is
    that of the cart read. All this is seen by watching, which changes nothing. -/
theorem uses_atomic (key : String) (memory : Memory) (faults : Nat → Option MediumFault)
    (use : Use) :
    let run := use.onSaved (watched key faults) ((memory, 0), [])
    let answer := run.1
    let after := run.2.1.1
    let accesses := run.2.2
    let cart := Cart.ofEntry (memory.get? key)
    use.onSaved ⟨Memory.medium.failing faults, key⟩ (memory, 0) = (answer, run.2.1) ∧
      (∀ e, answer.failure? = some e → after = memory) ∧
      (∀ change, use.change? = some change →
        (∀ fault, faults 0 = some fault →
          answer = .changed (.error (.storage fault.error)) ∧ accesses = [.get key]) ∧
        (accesses = [.get key] ∨ faults 0 = none ∧ ∃ bytes,
          accesses = [.get key, .set key bytes] ∧ ∀ fault, faults 1 = some fault →
            answer = .changed (.error (.storage fault.error))) ∧
        ∀ code, change.line? = some code → code ∉ cart.lines.map Line.code →
          accesses = [.get key] ∧ after = memory) ∧
      (use = .discard → accesses = [.delete key] ∧ ∀ fault, faults 0 = some fault →
        answer = .discarded (.error (.storage fault.error))) ∧
      ((∀ n, faults n = none) → answer = (use.onCart cart).1) := by
  intro run answer after accesses cart
  refine ⟨Use.onSaved_logged _ key (memory, 0) [] use,
    fun e h => memory_of_failure key faults memory use h, ?_, ?_,
    answer_of_faultless key faults memory use⟩
  · intro change hchange
    have hcourse := change_course key faults memory change.outcome
    have hrun : run = _ := Use.onSaved_change hchange (watched key faults) ((memory, 0), [])
    simp only [answer, after, accesses, hrun]
    refine ⟨?_, ?_, ?_⟩
    · intro fault hfault
      obtain ⟨hanswer, hread⟩ := hcourse.of_fault hfault
      exact ⟨congrArg Answer.changed hanswer, hread⟩
    · rcases hcourse.accesses_eq with hread | ⟨hget, bytes, hwritten, hanswer⟩
      · exact .inl hread
      · refine .inr ⟨hget, bytes, hwritten, ?_⟩
        intro fault hfault
        exact congrArg Answer.changed (hanswer fault hfault)
    · intro code hcode habsent
      exact hcourse.of_no_effect (Cart.Change.outcome_of_absent hcode habsent)
  · rintro rfl
    have hrun : (watched key faults).discard ((memory, 0), []) = _ :=
      watched_discard key faults memory
    simp only [answer, accesses, run, Use.onSaved, hrun]
    constructor
    · split <;> rfl
    · intro fault hfault
      rw [hfault]

end SavedCart

end Bookshop
