/-!
# Pieces of text

A text falls into pieces at every character of a class. There is always a piece, if only an empty
one.
-/

namespace Bookshop

def pieces (isMark : Char → Bool) : List Char → List (List Char)
  | [] => [[]]
  | c :: cs =>
    if isMark c then [] :: pieces isMark cs
    else
      match pieces isMark cs with
      | [] => [[c]]
      | piece :: others => (c :: piece) :: others

theorem pieces_ne_nil (isMark : Char → Bool) (cs : List Char) : pieces isMark cs ≠ [] := by
  cases cs with
  | nil => simp [pieces]
  | cons c cs =>
    unfold pieces
    split
    · simp
    · split <;> simp

end Bookshop
