import Bookshop.Binary64.Shortest

/-!
# Why a document is refused

Reading a document as a value of some type fails for one of a few reasons, and so does writing a
value as a document. Each reason has its wording here and nowhere else.
-/

namespace Bookshop

/-- Why a document is not a value of the type asked for. -/
inductive DecodeError where
  /-- The text is no JSON, or a string in it is no text. -/
  | malformed
  | mismatch
  | missing (field : String)
  | duplicate (field : String)
  | unknownChoice (found : String) (expected : List String)
  /-- A price is beyond what can be held in cents. -/
  | outOfRange (amount : Binary64)
deriving DecidableEq, Repr

inductive EncodeError where
  | nameNotText
deriving DecidableEq, Repr

def quotedName (name : String) : String := "`" ++ name ++ "`"

def choicesText : List String → String
  | [] => "there are no variants"
  | [only] => "expected " ++ quotedName only
  | [first, second] => "expected " ++ quotedName first ++ " or " ++ quotedName second
  | names => "expected one of " ++ String.intercalate ", " (names.map quotedName)

def DecodeError.message : DecodeError → String
  | .malformed => "malformed document"
  | .mismatch => "value of another type"
  | .missing field => "missing field " ++ quotedName field
  | .duplicate field => "duplicate field " ++ quotedName field
  | .unknownChoice found expected =>
    "unknown variant " ++ quotedName found ++ ", " ++ choicesText expected
  | .outOfRange amount => "amount out of range: " ++ amount.plainText

def EncodeError.message : EncodeError → String
  | .nameNotText => "key must be a string"

end Bookshop
