import Bookshop.Cart.Saved
import Bookshop.Proofs.Cart.Invariant
import Bookshop.Proofs.Storage.Medium

/-!
# What an entry reads as

Looking at a saved cart, and every change of it, begins with reading the entry under the key. What
that gives depends on the entry alone: `Cart.ofEntry` is the cart that an entry stands for, the
empty one when nothing is there or when what is there is no cart. Only a failure of the medium is
passed on.
-/

namespace Bookshop

namespace Cart

/-- The cart that an entry stands for. -/
def ofEntry (entry : Option Bytes) : Cart :=
  match entry with
  | none => .empty
  | some bytes =>
    match SavedLines.codec.read bytes with
    | .error _ => .empty
    | .ok document =>
      match ofLines document.lines with
      | .error _ => .empty
      | .ok cart => cart

/-- Whatever is stored, it reads as a valid cart. -/
theorem ofEntry_valid (entry : Option Bytes) : (ofEntry entry).Valid := by
  unfold ofEntry
  split
  · exact empty_valid
  split
  · exact empty_valid
  split
  · exact empty_valid
  · next hlines => exact ofLines_valid hlines

/-- The cart that lines from outside stand for: the empty one when they make none. -/
def ofLinesOrEmpty (lines : List Line) : Cart :=
  match ofLines lines with
  | .ok cart => cart
  | .error _ => .empty

theorem ofEntry_of_read {bytes : Bytes} {document : SavedLines}
    (h : SavedLines.codec.read bytes = .ok document) :
    ofEntry (some bytes) = ofLinesOrEmpty document.lines := by
  simp only [ofEntry, h, ofLinesOrEmpty]
  cases ofLines document.lines <;> rfl

/-- Bytes that are read alike stand for the same cart. -/
theorem ofEntry_congr {bytes bytes' : Bytes}
    (h : ∀ document, SavedLines.codec.read bytes = .ok document ↔
      SavedLines.codec.read bytes' = .ok document) :
    ofEntry (some bytes) = ofEntry (some bytes') := by
  cases hread : SavedLines.codec.read bytes with
  | ok document => simp only [ofEntry, hread, (h document).1 hread]
  | error e =>
    cases hread' : SavedLines.codec.read bytes' with
    | ok document => cases hread.symm.trans ((h document).2 hread')
    | error e' => simp only [ofEntry, hread, hread']

/-- The cart that is read, from what the medium answers. That an entry cannot be read is no failure
    of the medium. -/
def loaded : Except StorageError (Option Bytes) → Except CartError Cart
  | .ok entry => .ok (ofEntry entry)
  | .error (.unreadable _) => .ok .empty
  | .error e => .error (.storage e)

/-- The cart that is shown for what the medium answers: the empty one when it fails. -/
def ofAnswer : Except StorageError (Option Bytes) → Cart
  | .ok entry => ofEntry entry
  | .error _ => .empty

theorem ofAnswer_valid (answer : Except StorageError (Option Bytes)) :
    (ofAnswer answer).Valid := by
  cases answer with
  | ok entry => exact ofEntry_valid entry
  | error e => exact empty_valid

end Cart

namespace SavedCart

variable {σ : Type} {saved : SavedCart σ} {state after : σ}

/-- Reading the saved cart is one reading of the entry. -/
theorem load_eq_loaded (saved : SavedCart σ) (state : σ) :
    saved.load state =
      (Cart.loaded (saved.medium.get saved.key state).1, (saved.medium.get saved.key state).2) := by
  unfold load Medium.load
  rcases saved.medium.get saved.key state with ⟨answer, after⟩
  cases answer with
  | error e => cases e <;> rfl
  | ok entry =>
    cases entry with
    | none => rfl
    | some bytes =>
      simp only [Cart.loaded, Cart.ofEntry]
      cases SavedLines.codec.read bytes with
      | error e => rfl
      | ok document =>
        dsimp only
        cases Cart.ofLines document.lines with
        | error e => rfl
        | ok cart => rfl

theorem load_of_get {entry : Option Bytes}
    (h : saved.medium.get saved.key state = (.ok entry, after)) :
    saved.load state = (.ok (.ofEntry entry), after) := by
  rw [load_eq_loaded, h, Cart.loaded]

theorem load_of_fault {fault : MediumFault}
    (h : saved.medium.get saved.key state = (.error fault.error, after)) :
    saved.load state = (.error (.storage fault.error), after) := by
  rw [load_eq_loaded, h]
  cases fault <;> rfl

theorem current_of_get {entry : Option Bytes}
    (h : saved.medium.get saved.key state = (.ok entry, after)) :
    saved.current state = (.ofEntry entry, after) := by
  simp only [current, load_of_get h]

theorem current_of_error {e : StorageError}
    (h : saved.medium.get saved.key state = (.error e, after)) :
    saved.current state = (.empty, after) := by
  rw [current, load_eq_loaded, h]
  cases e <;> rfl

/-- Looking at the saved cart is one reading of the entry. -/
theorem current_eq_ofAnswer (saved : SavedCart σ) (state : σ) :
    saved.current state =
      (.ofAnswer (saved.medium.get saved.key state).1, (saved.medium.get saved.key state).2) := by
  rcases hget : saved.medium.get saved.key state with ⟨answer, after⟩
  cases answer with
  | ok entry => exact current_of_get hget
  | error e => exact current_of_error hget

theorem current_valid (saved : SavedCart σ) (state : σ) : (saved.current state).1.Valid := by
  rw [current_eq_ofAnswer]
  exact Cart.ofAnswer_valid _

/-! A change does what it does to the cart that the entry stands for. -/

section Change

variable (saved) {entry : Option Bytes} {edit : Cart → Except CartError (Option Cart)}
  (hget : saved.medium.get saved.key state = (.ok entry, after))
include hget

theorem change_of_error {e : CartError} (hedit : edit (.ofEntry entry) = .error e) :
    saved.change edit state = (.error e, after) := by
  simp only [change, load_of_get hget, hedit]

theorem change_of_none (hedit : edit (.ofEntry entry) = .ok none) :
    saved.change edit state = (.ok (.ofEntry entry), after) := by
  simp only [change, load_of_get hget, hedit]

theorem change_of_some {changed : Cart} (hedit : edit (.ofEntry entry) = .ok (some changed)) :
    saved.change edit state = saved.keep changed after := by
  simp only [change, load_of_get hget, hedit]

end Change

end SavedCart

end Bookshop
