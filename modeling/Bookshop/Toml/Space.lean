/-!
# Blank space and comments in TOML

Statements end with their lines, so blanks and line ends are told apart. A comment runs to the end
of its line and holds no control characters but tabs.
-/

namespace Bookshop

/-- A reader takes a value off the start of a text and returns it with the rest; none if no such
    value stands there. -/
abbrev Scan (α : Type) := List Char → Option (α × List Char)

namespace Toml

def isSpace (c : Char) : Bool := c = ' ' || c = '\t'

/-- A character that texts and comments may hold: no control character except the tab. -/
def isPlain (c : Char) : Bool := c = '\t' || (' ' ≤ c && c ≠ '\x7f')

def dropSpace (cs : List Char) : List Char := cs.dropWhile isSpace

def dropComment : List Char → List Char
  | '#' :: cs => cs.dropWhile isPlain
  | cs => cs

def newline? : List Char → Option (List Char)
  | '\n' :: cs => some cs
  | '\r' :: '\n' :: cs => some cs
  | _ => none

/-- The text after the rest of a line that holds nothing more than blanks and a comment. -/
def endLine? (cs : List Char) : Option (List Char) :=
  match dropComment (dropSpace cs) with
  | [] => some []
  | cs => newline? cs

/-- The text without blanks, line ends and comments at its start, where it may start inside a
    comment. -/
def dropBlankFrom (comment : Bool) : List Char → List Char
  | [] => []
  | '\n' :: cs => dropBlankFrom false cs
  | '\r' :: '\n' :: cs => dropBlankFrom false cs
  | c :: cs =>
    if comment then (if isPlain c then dropBlankFrom true cs else c :: cs)
    else if isSpace c then dropBlankFrom false cs
    else if c = '#' then dropBlankFrom true cs
    else c :: cs

/-- The text without blanks, line ends and comments at its start. -/
def dropBlank (cs : List Char) : List Char := dropBlankFrom false cs

end Toml

end Bookshop
