import Bookshop.Page.Cart

/-!
# The listing page

The page shows one page of the catalog. Number and products change together, when a page was
loaded; a failed load leaves both. Products are put into the saved cart from here, and the badge
follows only what the saved cart accepted.
-/

namespace Bookshop

structure ListingPage where
  pageNumber : Nat
  listing : Listing := .blank
deriving DecidableEq, Repr

namespace ListingPage

variable {σ τ : Type}

/-- The page for a page of the catalog; they are numbered from one on. -/
def new (pageNumber : Nat) : ListingPage := { pageNumber := max pageNumber 1 }

def load (page : ListingPage) (services : Services τ) (pageNumber : Nat)
    (around : Surroundings σ τ) : ListingPage × Surroundings σ τ :=
  match around.calling (services.listing pageNumber) with
  | (.ok listing, around) => (⟨pageNumber, listing⟩, around)
  | (.error _, around) => (page, around)

def init (page : ListingPage) (saved : SavedCart σ) (services : Services τ)
    (around : Surroundings σ τ) : ListingPage × Surroundings σ τ :=
  let (page, around) := page.load services page.pageNumber around
  (page, CartPage.refreshBadge saved around)

def addToCart (saved : SavedCart σ) (product : Product) (around : Surroundings σ τ) :
    Surroundings σ τ :=
  match around.storing (saved.add product 1) with
  | (.ok cart, around) => around.emit (.badge cart.unitCount)
  | (.error _, around) => around

end ListingPage

end Bookshop
