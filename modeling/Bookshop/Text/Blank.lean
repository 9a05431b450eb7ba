/-!
# Blank text

Text is blank when every character of it is white space in the sense of the Unicode property
`White_Space`. The table lists that property in full; zero-width characters and separators
U+001C to U+001F are not in it.
-/

namespace Bookshop

/-- The ranges of the Unicode property `White_Space`, ends included. -/
def whiteSpaceRanges : List (Nat × Nat) :=
  [(0x09, 0x0D), (0x20, 0x20), (0x85, 0x85), (0xA0, 0xA0), (0x1680, 0x1680), (0x2000, 0x200A),
   (0x2028, 0x2029), (0x202F, 0x202F), (0x205F, 0x205F), (0x3000, 0x3000)]

def isWhiteSpace (c : Char) : Bool :=
  whiteSpaceRanges.any fun (first, last) => first ≤ c.toNat && c.toNat ≤ last

/-- Nothing but white space: also true of the empty text. -/
def isBlank (text : String) : Bool :=
  text.toList.all isWhiteSpace

example : isBlank "\u00a0\u3000" = true ∧ isBlank "\u200b" = false := by decide

end Bookshop
