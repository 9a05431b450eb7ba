import Bookshop.Cart.Line

/-!
# Carts

A cart is a list of lines in the order in which their products were first added, with the total
of all of them. Adding to a product that is there already keeps the name and the price of its
line. Every change works on the lines first and takes effect only if the new total can be held, so
a refused change leaves the cart as it was.
-/

namespace Bookshop

structure Cart where
  lines : List Line
  total : Money
deriving DecidableEq, Repr

namespace Cart

def maxQuantity : Int64 := 9999

def empty : Cart := ⟨[], Money.zero⟩

/-! ### Looking at a cart -/

def isEmpty (cart : Cart) : Bool := cart.lines.isEmpty

def unitCount (cart : Cart) : Int64 := Line.unitCount cart.lines

def line? (cart : Cart) (code : ProductCode) : Option Line :=
  cart.lines.find? (·.code = code)

/-! ### Making carts of lines -/

/-- A quantity of a line is positive and at most the limit. -/
def checkQuantity (quantity : Int64) : Except QuantityError Unit :=
  if quantity ≤ 0 then .error (.notPositive quantity)
  else if maxQuantity < quantity then .error (.aboveLimit quantity maxQuantity)
  else .ok ()

/-- The first defect among lines, each of which must have a good quantity and a code that is not
    among the codes before it. -/
def defect? (before : List ProductCode) : List Line → Option CartDefect
  | [] => none
  | line :: lines =>
    match checkQuantity line.quantity with
    | .error cause => some (.quantity line.code cause)
    | .ok () =>
      if line.code ∈ before then some (.duplicate line.code)
      else defect? (line.code :: before) lines

/-- The cart with the given lines, unless their total cannot be held. -/
def commit (lines : List Line) : Except CartError Cart :=
  match Line.sumOf lines with
  | .error e => .error e
  | .ok total => .ok ⟨lines, total⟩

/-- The cart of lines that come from outside: the first defect is reported, and only then the
    total is asked for. -/
def ofLines (lines : List Line) : Except CartError Cart :=
  match defect? [] lines with
  | some defect => .error (.invalid defect)
  | none => commit lines

/-! ### Changes -/

def setQuantity (code : ProductCode) (quantity : Int64) : List Line → List Line
  | [] => []
  | line :: lines =>
    if line.code = code then { line with quantity } :: lines
    else line :: setQuantity code quantity lines

/-- Add units of a product: to its line if there is one, else as a new last line. -/
def add (cart : Cart) (code : ProductCode) (name : String) (price : Money) (quantity : Int64) :
    Except CartError Cart :=
  if quantity ≤ 0 then .error (.quantity (.notPositive quantity))
  else
    match cart.line? code with
    | some line =>
      match addChecked line.quantity quantity with
      | none => .error .overflow
      | some sum =>
        match checkQuantity sum with
        | .error cause => .error (.quantity cause)
        | .ok () => commit (setQuantity code sum cart.lines)
    | none =>
      match checkQuantity quantity with
      | .error cause => .error (.quantity cause)
      | .ok () => commit (cart.lines ++ [⟨code, name, price, quantity⟩])

/-- Remove the line of a product; none when there is no such line. -/
def remove (cart : Cart) (code : ProductCode) : Except CartError (Option Cart) :=
  let lines := cart.lines.filter (·.code ≠ code)
  if lines.length = cart.lines.length then .ok none
  else
    match commit lines with
    | .error e => .error e
    | .ok cart => .ok (some cart)

/-- Set the quantity of a product; none when there is no line of it. A quantity that is not
    positive removes the line. -/
def update (cart : Cart) (code : ProductCode) (quantity : Int64) :
    Except CartError (Option Cart) :=
  if quantity ≤ 0 then cart.remove code
  else
    match checkQuantity quantity with
    | .error cause => .error (.quantity cause)
    | .ok () =>
      match cart.line? code with
      | none => .ok none
      | some _ =>
        match commit (setQuantity code quantity cart.lines) with
        | .error e => .error e
        | .ok cart => .ok (some cart)

/-! ### Showing a cart -/

def encode (cart : Cart) : Json :=
  .record [(Quoted.ofText "items", (Codec.list Line.codec).encode cart.lines),
    (Quoted.ofText "totalAmount", Money.codec.encode cart.total)] true

end Cart

end Bookshop
