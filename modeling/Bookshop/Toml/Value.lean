import Bookshop.Toml.Basic
import Bookshop.Toml.DateTime
import Bookshop.Toml.Key
import Bookshop.Toml.Number

/-!
# TOML values

Lists may run over several lines and end with a comma; tables in braces stand on one line and do
not. Values in brackets are read by a reader of values with one bracket less, so the depth that is
allowed is also what the reading ends by.
-/

namespace Bookshop.Toml

/-! ### Values without brackets -/

def as (make : α → Toml) (read : Option (α × List Char)) : Option (Toml × List Char) :=
  read.map fun (value, rest) => (make value, rest)

def boolean? : Scan Bool
  | 't' :: 'r' :: 'u' :: 'e' :: cs => some (true, cs)
  | 'f' :: 'a' :: 'l' :: 's' :: 'e' :: cs => some (false, cs)
  | _ => none

def simple? : Scan Toml := fun cs =>
  (as .text (text? cs)).or <|
  (as .boolean (boolean? cs)).or <|
  (as .dateTime (dateTime? cs)).or <|
  (as .float (float? cs)).or <|
  as .integer (integer? cs)

/-! ### Values in brackets -/

/-- The items of a list on to its closing bracket, at most `most` of them. -/
def items? (item : Scan Toml) (most : Nat) (cs : List Char) : Option (List Toml × List Char) :=
  match dropBlank cs with
  | ']' :: cs => some ([], cs)
  | cs =>
    match most with
    | 0 => none
    | most + 1 =>
      match item cs with
      | none => none
      | some (value, cs) =>
        match dropBlank cs with
        | ']' :: cs => some ([value], cs)
        | ',' :: cs =>
          match items? item most cs with
          | none => none
          | some (values, cs) => some (value :: values, cs)
        | _ => none

/-- A key, an equals sign and a value, with blanks around them. -/
def entry? (item : Scan Toml) : Scan (List String × String × Toml) := fun cs =>
  match key? cs with
  | some ((path, name), '=' :: cs) =>
    match item (dropSpace cs) with
    | some (value, cs) => some ((path, name, value), dropSpace cs)
    | none => none
  | _ => none

/-- The entries of a table in braces on to its closing brace, at most `most` of them, added to
    those before them. -/
def braced? (item : Scan Toml) (most : Nat) (entries : Entries) (cs : List Char) :
    Option (Entries × List Char) :=
  match most with
  | 0 => none
  | most + 1 =>
    match entry? item cs with
    | none => none
    | some ((path, name, value), cs) =>
      match insert path name value .inline entries with
      | none => none
      | some entries =>
        match cs with
        | '\x7d' :: cs => some (entries, cs)
        | ',' :: cs => braced? item most entries cs
        | _ => none

/-- A value with at most `depth` brackets open at once. -/
def valueWithin? (depth : Nat) (cs : List Char) : Option (Toml × List Char) :=
  match depth with
  | 0 => simple? cs
  | depth + 1 =>
    match cs with
    | '[' :: cs => as .list (items? (valueWithin? depth) cs.length cs)
    | '\x7b' :: cs =>
      match dropSpace cs with
      | '\x7d' :: cs => some (.table .inline [], cs)
      | cs => as (.table .inline) (braced? (valueWithin? depth) cs.length [] cs)
    | cs => simple? cs

def value? : Scan Toml := valueWithin? maxDepth

end Bookshop.Toml
