import Bookshop.Toml.Text

/-!
# TOML keys

A key is a name, or several with dots between them that lead from table to table. A name is written
as it is, if it has only letters, digits, hyphens and underscores, or in quotes.
-/

namespace Bookshop.Toml

/-- How many names a key may have, and how many brackets may be open at once in a value. -/
def maxDepth : Nat := 79

def isBare (c : Char) : Bool := c.isAlphanum || c = '-' || c = '_'

def name? : Scan String := fun cs =>
  match quoted? cs with
  | some read => some read
  | none =>
    let bare := cs.takeWhile isBare
    if bare.isEmpty then none else some (String.ofList bare, cs.dropWhile isBare)

/-- Up to `most` names with dots between them and blanks around each. -/
def names? (most : Nat) (cs : List Char) : Option (List String × List Char) :=
  match most with
  | 0 => none
  | most + 1 =>
    match name? (dropSpace cs) with
    | none => none
    | some (name, cs) =>
      match dropSpace cs with
      | '.' :: cs =>
        match names? most cs with
        | none => none
        | some (names, cs) => some (name :: names, cs)
      | cs => some ([name], cs)

/-- A key: the names that lead to the table, and the name in it. -/
def key? : Scan (List String × String) := fun cs =>
  match names? maxDepth cs with
  | none => none
  | some (names, cs) =>
    match names.getLast? with
    | none => none
    | some last => some ((names.dropLast, last), cs)

end Bookshop.Toml
