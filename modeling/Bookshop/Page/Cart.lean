import Bookshop.Checkout.Submission

/-!
# The cart page

The page shows a snapshot of the saved cart and the form of the order. The snapshot is taken when
the page is first opened and after every change of a quantity, also one that is refused. Orders are
made of the snapshot, never of what the saved cart has become since.
-/

namespace Bookshop

structure CartPage where
  cart : Cart := .empty
  form : OrderForm := {}
  submission : Submission := {}
  opened : Bool := false
deriving DecidableEq, Repr

namespace CartPage

variable {σ τ : Type}

def refreshBadge (saved : SavedCart σ) (around : Surroundings σ τ) : Surroundings σ τ :=
  let (count, around) := around.storing saved.unitCount
  around.emit (.badge count)

def load (page : CartPage) (saved : SavedCart σ) (around : Surroundings σ τ) :
    CartPage × Surroundings σ τ :=
  let (cart, around) := around.storing saved.current
  ({ page with cart }, around)

/-- Open the page; only the first time does anything. -/
def init (page : CartPage) (saved : SavedCart σ) (around : Surroundings σ τ) :
    CartPage × Surroundings σ τ :=
  if page.opened then (page, around)
  else { page with opened := true }.load saved (refreshBadge saved around)

def update (page : CartPage) (saved : SavedCart σ) (code : ProductCode) (quantity : Int64)
    (around : Surroundings σ τ) : CartPage × Surroundings σ τ :=
  let (_, around) := around.storing (saved.update code quantity)
  let (page, around) := page.load saved around
  (page, refreshBadge saved around)

/-- Delete the saved cart; the snapshot stays. -/
def discard (saved : SavedCart σ) (around : Surroundings σ τ) : Surroundings σ τ :=
  (around.storing saved.discard).2

def submit (page : CartPage) (saved : SavedCart σ) (services : Services τ)
    (around : Surroundings σ τ) : Outcome × CartPage × Surroundings σ τ :=
  let (outcome, submission, around) :=
    page.submission.submit saved services page.form page.cart around
  (outcome, { page with submission }, around)

end CartPage

end Bookshop
