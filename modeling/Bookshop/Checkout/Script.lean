import Bookshop.Checkout.Services

/-!
# Scripted services

For trying out pages without a network: services that answer from a list of prepared replies and
keep note of what they were asked. Each call takes one reply; without replies the connection fails.
-/

namespace Bookshop

inductive Reply where
  | answer (response : Response)
  | failure (cause : FetchError)
deriving DecidableEq, Repr

structure Call where
  method : HttpMethod
  target : String
  body : Option Bytes
deriving DecidableEq, Repr

structure Script where
  replies : List Reply := []
  calls : List Call := []
deriving DecidableEq, Repr

namespace Script

def note (call : Call) (script : Script) : Script :=
  { script with calls := script.calls ++ [call] }

def take (script : Script) : Except FetchError Response × Script :=
  match script.replies with
  | [] => (.error (.request ""), script)
  | .answer response :: replies => (.ok response, { script with replies })
  | .failure cause :: replies => (.error cause, { script with replies })

def ask (codec : Codec α) (call : Call) (script : Script) : Except FetchError α × Script :=
  let (answer, script) := (script.note call).take
  (Client.read codec answer, script)

def orderCall (order : Order) : Call := ⟨.post, ordersPath, some (Order.codec.write order)⟩

def services : Services Script where
  listing page := ask Listing.codec ⟨.get, listingPath page, none⟩
  placeOrder order := ask Confirmation.codec (orderCall order)
  orderRecord number := ask OrderRecord.codec ⟨.get, orderPath number, none⟩

end Script

end Bookshop
