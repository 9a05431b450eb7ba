import Bookshop.Catalog.Product
import Bookshop.Checkout.Order
import Bookshop.Fetch.Client

/-!
# Services

The pages of the shop depend on a catalog service and an order service. What they ask of them is
listed here, with what it becomes when the services are reached through a client.
-/

namespace Bookshop

/-- What the pages ask of the services, with states of type `τ`. -/
structure Services (τ : Type) where
  listing : Nat → τ → Except FetchError Listing × τ
  placeOrder : Order → τ → Except FetchError Confirmation × τ
  orderRecord : OrderNumber → τ → Except FetchError OrderRecord × τ

def Services.ofClient (client : Client) (transport : Transport τ) : Services τ where
  listing page := client.getJson transport Listing.codec (listingPath page)
  placeOrder order :=
    client.postJson transport Confirmation.codec ordersPath (.ok (Order.codec.write order))
  orderRecord number := client.getJson transport OrderRecord.codec (orderPath number)

end Bookshop
