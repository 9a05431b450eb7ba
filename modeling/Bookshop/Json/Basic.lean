import Bookshop.Json.Numeral
import Bookshop.Json.Quoted

/-!
# JSON documents

A document is read into a tree as far as it is well-formed. Where its text breaks the grammar the
tree ends: the value that was due is `cut`, and every list and record around it stays open. So a
tree says everything up to the first fault, in the order of the text, and whoever takes a value
out of it meets the faults of the text and of the values in one order. Strings and numerals stay
as they are spelled; nothing is asked of those that nobody takes.
-/

namespace Bookshop

/-- A JSON value as far as its text is well-formed. -/
inductive Json where
  | null
  | bool (value : Bool)
  | number (numeral : Numeral)
  /-- A string by its raw bytes between the quotes. -/
  | string (raw : Bytes)
  /-- A list, and whether it is closed: an open one ends where the text breaks the grammar. -/
  | list (items : List Json) (closed : Bool)
  /-- A record with its members in order, names by their raw bytes, and whether it is closed. -/
  | record (members : List (Bytes × Json)) (closed : Bool)
  /-- No value: the text breaks the grammar where one is due. -/
  | cut
deriving Repr

abbrev Member := Bytes × Json

namespace Json

def text (s : String) : Json := .string (Quoted.ofText s)

def word (n : Int64) : Json := .number (Numeral.ofWord n)

/-- The numeral of a double; infinities and NaNs have none and are written as null. -/
def double (x : Binary64) : Json :=
  match Numeral.ofBinary64? x with
  | some numeral => .number numeral
  | none => .null

/-! ### Writing -/

def spellString (raw : Bytes) : Bytes := 0x22 :: raw ++ [0x22]

mutual

/-- The bytes of a value, without any space. -/
def spell : Json → Bytes
  | .null => [0x6E, 0x75, 0x6C, 0x6C]
  | .bool true => [0x74, 0x72, 0x75, 0x65]
  | .bool false => [0x66, 0x61, 0x6C, 0x73, 0x65]
  | .number numeral => numeral.spell
  | .string raw => spellString raw
  | .list items closed => 0x5B :: spellItems items ++ (if closed then [0x5D] else [])
  | .record members closed => 0x7B :: spellMembers members ++ (if closed then [0x7D] else [])
  | .cut => []

def spellItems : List Json → Bytes
  | [] => []
  | [item] => spell item
  | item :: items => spell item ++ 0x2C :: spellItems items

def spellMembers : List (Bytes × Json) → Bytes
  | [] => []
  | [(name, value)] => spellString name ++ 0x3A :: spell value
  | (name, value) :: members =>
    spellString name ++ 0x3A :: spell value ++ 0x2C :: spellMembers members

end

end Json

end Bookshop
