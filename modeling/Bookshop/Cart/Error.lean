import Bookshop.Identifier
import Bookshop.Storage.Medium

/-!
# Why a cart refuses a change

Each reason has its wording here. A failure of the storage is carried along.
-/

namespace Bookshop

inductive QuantityError where
  | notPositive (quantity : Int64)
  | aboveLimit (quantity limit : Int64)
deriving DecidableEq, Repr

inductive CartDefect where
  | quantity (code : ProductCode) (cause : QuantityError)
  | duplicate (code : ProductCode)
  | described (text : String)
deriving DecidableEq, Repr

/-- Why a change or a cart is refused. -/
inductive CartError where
  | quantity (cause : QuantityError)
  /-- A total leaves the range of amounts, or a quantity that of words. -/
  | overflow
  | invalid (defect : CartDefect)
  | storage (cause : StorageError)
deriving DecidableEq, Repr

def QuantityError.message : QuantityError → String
  | .notPositive quantity => "Invalid quantity: " ++ intText quantity.toInt
  | .aboveLimit quantity limit =>
    "Quantity " ++ intText quantity.toInt ++ " exceeds maximum allowed (" ++
      intText limit.toInt ++ ")"

def CartDefect.message : CartDefect → String
  | .quantity code cause => "item " ++ code.text ++ ": " ++ cause.message
  | .duplicate code => "duplicate item " ++ code.text
  | .described text => text

def CartError.message : CartError → String
  | .quantity cause => cause.message
  | .overflow => "Arithmetic overflow in money calculation"
  | .invalid defect => "Invalid cart: " ++ defect.message
  | .storage cause => "Storage error: " ++ cause.message

end Bookshop
