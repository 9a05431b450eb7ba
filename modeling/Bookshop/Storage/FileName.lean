import Bookshop.Text.Hex
import Bookshop.Text.Utf8

/-!
# File names

A key becomes a file name by keeping ASCII letters, digits and hyphens and writing every other byte
as an underscore and two hexadecimal digits. Underscores themselves are never kept, so the name
tells the key. A value is first written to a temporary file beside the file of its key.
-/

namespace Bookshop

namespace FileName

def isKept (b : UInt8) : Bool :=
  let n := b.toNat
  (48 ≤ n && n ≤ 57) || (65 ≤ n && n ≤ 90) || (97 ≤ n && n ≤ 122) || n == 45

def escapeByte (b : UInt8) : List Char :=
  if isKept b then [Char.ofNat b.toNat]
  else ['_', hexChar (b.toNat / 16), hexChar (b.toNat % 16)]

def escape (key : String) : List Char := (Utf8.encode key).flatMap escapeByte

def ofKey (key : String) : String := String.ofList (escape key ++ ".json".toList)

/-- The name without its extension: the part before the last point, or all of it when it has no
    point but a leading one. -/
def stem (name : List Char) : List Char :=
  let before := (name.reverse.dropWhile (· ≠ '.')).drop 1
  if before.isEmpty then name else before.reverse

/-- The temporary file for a file: its extension is replaced. -/
def temporary (name : String) : String :=
  String.ofList (stem name.toList ++ ".json.tmp".toList)

def maxLength : Nat := 255

def isTooLong (name : String) : Bool := maxLength < (Utf8.encode name).length

example : ofKey "cart:a" = "cart_3Aa.json" := by decide
example : temporary (ofKey "cart") = "cart.json.tmp" := by decide
example : temporary (ofKey "") = ".json.json.tmp" := by decide

end FileName

end Bookshop
