import Bookshop.Text.Blank
import Bookshop.Wire.Codec

/-!
# Identifiers

Product codes and order numbers are texts given by the services. They are types of their own so
that one is never taken for the other or for an ordinary text.
-/

namespace Bookshop

structure ProductCode where
  text : String
deriving DecidableEq, Repr

structure OrderNumber where
  text : String
deriving DecidableEq, Repr

namespace ProductCode

def isBlank (code : ProductCode) : Bool := Bookshop.isBlank code.text

def compare (a b : ProductCode) : Ordering := Ord.compare a.text b.text

def codec : Codec ProductCode := Codec.text.convert ProductCode.text fun text => .ok ⟨text⟩

end ProductCode

namespace OrderNumber

def isBlank (number : OrderNumber) : Bool := Bookshop.isBlank number.text

def compare (a b : OrderNumber) : Ordering := Ord.compare a.text b.text

def codec : Codec OrderNumber := Codec.text.convert OrderNumber.text fun text => .ok ⟨text⟩

end OrderNumber

end Bookshop
