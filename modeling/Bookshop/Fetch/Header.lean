import Bookshop.Text.Utf8

/-!
# Headers

Names of headers are told apart without regard to case, so they are sent in lower case. A value is
bytes without control characters other than tabs; blanks around it count for nothing.
-/

namespace Bookshop.Header

/-! ### Names and values -/

def isNameChar (c : Char) : Bool := c.isAlphanum || "!#$%&'*+-.^_\x60|~".toList.contains c

def isName (name : String) : Bool := !name.isEmpty && name.toList.all isNameChar

def isValueByte (b : UInt8) : Bool := b = 9 || (32 ≤ b && b ≠ 127)

def isValue (value : String) : Bool := (Utf8.encode value).all isValueByte

/-- The name in the form in which it is sent. -/
def canonical (name : String) : String := String.ofList (name.toList.map Char.toLower)

/-- The items without those of a class at either end. -/
def strip {α : Type} (isBlank : α → Bool) (items : List α) : List α :=
  ((items.dropWhile isBlank).reverse.dropWhile isBlank).reverse

def trim (value : String) : String :=
  String.ofList (strip (fun c => c = ' ' || c = '\t') value.toList)

/-! ### Lines -/

/-- A header as it is received: its name in lower case and the bytes of its value. -/
structure Line where
  name : String
  value : Bytes
deriving DecidableEq, Repr

def chars (bytes : Bytes) : List Char := bytes.map fun b => Char.ofNat b.toNat

/-- Read one line of a head: a name, a colon right after it, and a value. -/
def line? (bytes : Bytes) : Option Line :=
  let name := String.ofList (chars (bytes.takeWhile (· ≠ 0x3A)))
  match bytes.dropWhile (· ≠ 0x3A) with
  | [] => none
  | _ :: value =>
    if isName name && value.all isValueByte then
      some ⟨canonical name, strip (fun b => b = 0x20 || b = 9) value⟩
    else none

/-- The value as text: all of it if it is ASCII, else nothing. -/
def Line.text (line : Line) : String :=
  if line.value.all (· < 127) then String.ofList (chars line.value) else ""

/-- The headers by their names: each name once, with its last value as text. -/
def received (lines : List Line) : List (String × String) :=
  lines.foldl (fun seen line => seen.filter (·.1 ≠ line.name) ++ [(line.name, line.text)]) []

def values (name : String) (lines : List Line) : List Bytes :=
  (lines.filter (·.name = name)).map Line.value

end Bookshop.Header
