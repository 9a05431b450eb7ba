import Bookshop.Cart.Basic

/-!
# Orders

An order is what the customer filled in and the lines of the cart. The order service answers with
the number of the order, and later with a record of it. Totals are never taken from the service:
they are computed from the lines.
-/

namespace Bookshop

structure Customer where
  name : String := ""
  email : String := ""
  phone : String := ""
deriving DecidableEq, Repr

structure Address where
  line1 : String := ""
  line2 : Option String := none
  city : String := ""
  state : String := ""
  zipCode : String := ""
  country : String := ""
deriving DecidableEq, Repr

structure OrderForm where
  customer : Customer := {}
  deliveryAddress : Address := {}
deriving DecidableEq, Repr

structure Order where
  customer : Customer
  deliveryAddress : Address
  lines : List Line
deriving DecidableEq, Repr

structure Confirmation where
  orderNumber : OrderNumber
deriving DecidableEq, Repr

inductive OrderStatus where
  | new
  | inProcess
  | delivered
  | cancelled
  | error
deriving DecidableEq, Repr

/-- An order as the order service keeps it. -/
structure OrderRecord where
  orderNumber : OrderNumber
  lines : List Line
  customer : Customer
  deliveryAddress : Address
  status : OrderStatus
  comments : Option String := none
  createdAt : Option String := none
deriving DecidableEq, Repr

/-! ### Making and reading orders -/

def Order.ofForm (form : OrderForm) (cart : Cart) : Order :=
  ⟨form.customer, form.deliveryAddress, cart.lines⟩

def OrderRecord.total (record : OrderRecord) : Except CartError Money := Line.sumOf record.lines

def ordersPath : String := "/api/orders"

def orderPath (number : OrderNumber) : String := ordersPath ++ "/" ++ number.text

def confirmationPath (number : OrderNumber) : String := "/orders/" ++ number.text

/-! ### Wire forms -/

def Customer.fields :=
  Fields.field "name" none .text <|
  .field "email" none .text <|
  .field "phone" none .text .done

def Customer.codec : Codec Customer :=
  .record fields (fun c => (c.name, c.email, c.phone, ()))
    fun (name, email, phone, ()) => { name, email, phone }

def Address.fields :=
  Fields.field "addressLine1" none .text <|
  .field "addressLine2" (some none) (.optional .text) <|
  .field "city" none .text <|
  .field "state" none .text <|
  .field "zipCode" none .text <|
  .field "country" none .text .done

def Address.codec : Codec Address :=
  .record fields (fun a => (a.line1, a.line2, a.city, a.state, a.zipCode, a.country, ()))
    fun (line1, line2, city, state, zipCode, country, ()) =>
      { line1, line2, city, state, zipCode, country }

def OrderForm.fields :=
  Fields.field "customer" none Customer.codec <|
  .field "deliveryAddress" none Address.codec .done

def OrderForm.codec : Codec OrderForm :=
  .record fields (fun f => (f.customer, f.deliveryAddress, ()))
    fun (customer, deliveryAddress, ()) => { customer, deliveryAddress }

def Order.fields :=
  Fields.field "customer" none Customer.codec <|
  .field "deliveryAddress" none Address.codec <|
  .field "items" none (.list Line.codec) .done

def Order.codec : Codec Order :=
  .record fields (fun o => (o.customer, o.deliveryAddress, o.lines, ()))
    fun (customer, deliveryAddress, lines, ()) => { customer, deliveryAddress, lines }

def Confirmation.fields := Fields.field "orderNumber" none OrderNumber.codec .done

def Confirmation.codec : Codec Confirmation :=
  .record fields (fun c => (c.orderNumber, ())) fun (orderNumber, ()) => { orderNumber }

def OrderStatus.choices : List (String × OrderStatus) :=
  [("NEW", .new), ("IN_PROCESS", .inProcess), ("DELIVERED", .delivered),
    ("CANCELLED", .cancelled), ("ERROR", .error)]

def OrderStatus.codec : Codec OrderStatus := .choice choices

def OrderRecord.fields :=
  Fields.field "orderNumber" none OrderNumber.codec <|
  .field "items" none (.list Line.codec) <|
  .field "customer" none Customer.codec <|
  .field "deliveryAddress" none Address.codec <|
  .field "status" none OrderStatus.codec <|
  .field "comments" (some none) (.optional .text) <|
  .field "createdAt" (some none) (.optional .text) .done

def OrderRecord.codec : Codec OrderRecord :=
  .record fields
    (fun r => (r.orderNumber, r.lines, r.customer, r.deliveryAddress, r.status, r.comments,
      r.createdAt, ()))
    fun (orderNumber, lines, customer, deliveryAddress, status, comments, createdAt, ()) =>
      { orderNumber, lines, customer, deliveryAddress, status, comments, createdAt }

end Bookshop
