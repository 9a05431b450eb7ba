import Bookshop.Cart.Basic
import Bookshop.Catalog.Product
import Bookshop.Storage.Medium

/-!
# Saved carts

The cart of a customer outlives the page that shows it: it is saved in a storage medium under a
key, as a document of its lines. Only lines are saved; the total is computed when the cart is read
again. Looking at a saved cart never fails and never writes: what cannot be read as a cart is shown
as the empty cart. A change is refused when the medium cannot be read, so that a failure of the
medium is never taken for an empty cart and written over.
-/

namespace Bookshop

structure SavedLines where
  lines : List Line
deriving DecidableEq, Repr

namespace SavedLines

def fields := Fields.field "items" (some []) (.list Line.codec) .done

def codec : Codec SavedLines :=
  .record fields (fun s => (s.lines, ())) fun (lines, ()) => { lines }

end SavedLines

/-- A cart that is saved in a medium under a key. -/
structure SavedCart (σ : Type) where
  medium : Medium σ
  key : String

namespace SavedCart

def defaultKey : String := "cart"

variable {σ : Type}

/-! ### Reading and writing -/

/-- The saved cart. A document that is no cart reads as the empty cart; only a failure of the medium
    is a failure. -/
def load (saved : SavedCart σ) (state : σ) : Except CartError Cart × σ :=
  match saved.medium.load SavedLines.codec saved.key state with
  | (.ok none, state) => (.ok .empty, state)
  | (.ok (some document), state) =>
    match Cart.ofLines document.lines with
    | .ok cart => (.ok cart, state)
    | .error _ => (.ok .empty, state)
  | (.error (.unreadable _), state) => (.ok .empty, state)
  | (.error e, state) => (.error (.storage e), state)

def save (saved : SavedCart σ) (cart : Cart) (state : σ) : Except CartError Unit × σ :=
  match saved.medium.save saved.key (.ok (SavedLines.codec.write ⟨cart.lines⟩)) state with
  | (.ok (), state) => (.ok (), state)
  | (.error e, state) => (.error (.storage e), state)

/-! ### Looking -/

def current (saved : SavedCart σ) (state : σ) : Cart × σ :=
  match saved.load state with
  | (.ok cart, state) => (cart, state)
  | (.error _, state) => (.empty, state)

def total (saved : SavedCart σ) (state : σ) : Money × σ :=
  let (cart, state) := saved.current state
  (cart.total, state)

def unitCount (saved : SavedCart σ) (state : σ) : Int64 × σ :=
  let (cart, state) := saved.current state
  (cart.unitCount, state)

/-! ### Changing -/

def keep (saved : SavedCart σ) (cart : Cart) (state : σ) : Except CartError Cart × σ :=
  match saved.save cart state with
  | (.ok (), state) => (.ok cart, state)
  | (.error e, state) => (.error e, state)

/-- Read the cart and change it. A change that gives no cart leaves the saved one alone. -/
def change (saved : SavedCart σ) (edit : Cart → Except CartError (Option Cart)) (state : σ) :
    Except CartError Cart × σ :=
  match saved.load state with
  | (.error e, state) => (.error e, state)
  | (.ok cart, state) =>
    match edit cart with
    | .error e => (.error e, state)
    | .ok none => (.ok cart, state)
    | .ok (some changed) => saved.keep changed state

def add (saved : SavedCart σ) (product : Product) (quantity : Int64) (state : σ) :
    Except CartError Cart × σ :=
  saved.change
    (fun cart => (cart.add product.code product.name product.price quantity).map some) state

def update (saved : SavedCart σ) (code : ProductCode) (quantity : Int64) (state : σ) :
    Except CartError Cart × σ :=
  saved.change (fun cart => cart.update code quantity) state

def remove (saved : SavedCart σ) (code : ProductCode) (state : σ) : Except CartError Cart × σ :=
  saved.change (fun cart => cart.remove code) state

def discard (saved : SavedCart σ) (state : σ) : Except CartError Unit × σ :=
  match saved.medium.delete saved.key state with
  | (.ok (), state) => (.ok (), state)
  | (.error e, state) => (.error (.storage e), state)

end SavedCart

end Bookshop
