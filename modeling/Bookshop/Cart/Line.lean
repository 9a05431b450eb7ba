import Bookshop.Cart.Error
import Bookshop.Money

/-!
# Lines

A line is a product with the name and the price it had when it was put into the cart, and a
quantity. Carts, orders and the records of orders are all made of lines. The total of lines is
exact or refused: every line total and every partial sum has to be an amount.
-/

namespace Bookshop

structure Line where
  code : ProductCode
  name : String
  price : Money
  quantity : Int64
deriving DecidableEq, Repr

namespace Line

def total (line : Line) : Except CartError Money :=
  match line.price.times? line.quantity with
  | some amount => .ok amount
  | none => .error .overflow

def totals : List Line → Except CartError (List Money)
  | [] => .ok []
  | line :: lines =>
    match line.total with
    | .error e => .error e
    | .ok amount =>
      match totals lines with
      | .error e => .error e
      | .ok amounts => .ok (amount :: amounts)

def sumOf (lines : List Line) : Except CartError Money :=
  match totals lines with
  | .error e => .error e
  | .ok amounts =>
    match Money.sum? amounts with
    | some amount => .ok amount
    | none => .error .overflow

def unitCount (lines : List Line) : Int64 :=
  lines.foldl (fun count line => count + line.quantity) 0

def fields :=
  Fields.field "code" none ProductCode.codec <|
  .field "name" none .text <|
  .field "price" none Money.codec <|
  .field "quantity" none .word .done

def codec : Codec Line :=
  .record fields (fun line => (line.code, line.name, line.price, line.quantity, ()))
    fun (code, name, price, quantity, ()) => ⟨code, name, price, quantity⟩

end Line

end Bookshop
