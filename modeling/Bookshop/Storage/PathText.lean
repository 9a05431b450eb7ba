import Bookshop.Text.Pieces
import Bookshop.Text.Utf8

/-!
# Path texts

A path is handed to the file system as text. The names in it stand between slashes; a single point
stands for the folder that it is seen from. The file system takes a text only up to a length, which
counts the way as it is written and not the folders that it leads through.
-/

namespace Bookshop.PathText

def maxLength : Nat := 4095

def isTooLong (text : String) : Bool := maxLength < (Utf8.encode text).length

/-- Can the text be handed to the file system? It ends texts at a zero byte, so none may have one.
    -/
def isText (text : String) : Bool := text.toList.all (· ≠ '\x00')

def isAbsolute (text : String) : Bool := text.toList.head? = some '/'

def join (base text : String) : String :=
  if isAbsolute text || base.isEmpty then text
  else if base.toList.getLast? = some '/' then base ++ text
  else base ++ "/" ++ text

def steps (text : String) : List String :=
  ((pieces (· = '/') text.toList).map String.ofList).filter (· ≠ "")

example : join "a" "b" = "a/b" ∧ join "a/" "b" = "a/b" ∧ join "a" "/b" = "/b" := by decide
example : steps "/a//./b/" = ["a", ".", "b"] := by decide

end Bookshop.PathText
