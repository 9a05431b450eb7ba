import Bookshop.Unicode.Composite
import Bookshop.Unicode.Mark

/-!
# Normal forms

A text that can be written with composites or with their parts has one normal form: composites are
taken apart, the marks after each character are put in the order of their classes, and then every
mark is put to the character before it as far as there is a composite for the two and no mark of the
same place comes between.
-/

namespace Bookshop.Unicode

/-- The depth to which composites are nested. -/
def compositeDepth : Nat := 2

/-- The parts of a character that are no composites themselves, to a depth. -/
def takeApart : Nat → Char → List Char
  | 0, c => [c]
  | depth + 1, c =>
    match parts? c with
    | some (base, other) => takeApart depth base ++ takeApart depth other
    | none => [c]

/-- Put a character before an ordered text: a mark goes after the marks of lower classes. -/
def putInOrder (c : Char) : List Char → List Char
  | [] => [c]
  | other :: rest =>
    if combiningClass other ≠ 0 && combiningClass other < combiningClass c then
      other :: putInOrder c rest
    else c :: other :: rest

/-- Put together what comes after a character that starts anew. The marks that stay on their own
    are given in reverse, with the class of the last one. -/
def putTogether (start : Char) (marks : List Char) (last : Nat) : List Char → List Char
  | [] => start :: marks.reverse
  | c :: rest =>
    let class' := combiningClass c
    let whole := if marks.isEmpty || last < class' then whole? start c else none
    match whole with
    | some whole => putTogether whole marks last rest
    | none =>
      if class' = 0 then start :: (marks.reverse ++ putTogether c [] 0 rest)
      else putTogether start (c :: marks) class' rest

def compose : List Char → List Char
  | [] => []
  | c :: rest =>
    if combiningClass c = 0 then putTogether c [] 0 rest else c :: compose rest

def normalize (text : List Char) : List Char :=
  compose ((text.flatMap (takeApart compositeDepth)).foldr putInOrder [])

end Bookshop.Unicode
