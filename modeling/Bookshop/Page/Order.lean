import Bookshop.Checkout.Services
import Bookshop.Page.Event

/-!
# The order page

The page shows the record of one order, once it could be loaded. A failed load leaves the record
that was loaded before.
-/

namespace Bookshop

structure OrderPage where
  number : OrderNumber
  record : Option OrderRecord := none
deriving DecidableEq, Repr

def OrderPage.load (page : OrderPage) (services : Services τ) (around : Surroundings σ τ) :
    OrderPage × Surroundings σ τ :=
  match around.calling (services.orderRecord page.number) with
  | (.ok record, around) => ({ page with record := some record }, around)
  | (.error _, around) => (page, around)

end Bookshop
