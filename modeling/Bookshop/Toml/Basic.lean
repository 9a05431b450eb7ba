import Bookshop.Binary64.Basic

/-!
# TOML tables

A TOML document is a table of tables. It grows statement by statement, and a statement may only add
what nothing before it has settled: a table has at most one header, a table that was written out in
braces is closed, and a dotted key enters only tables that dotted keys or the headers of tables
below them have made. This file holds the values and the three ways in which a document grows; all
of them go through `changeAt`, which walks along the names of a path and refuses where it may not
enter.
-/

namespace Bookshop

/-- How a table came about, which decides what may still be added to it. -/
inductive TableOrigin where
  /-- It has a header, or is the whole document. -/
  | header
  /-- It stands on the way to a table with a header. -/
  | implied
  /-- It stands on the way of a dotted key. -/
  | dotted
  /-- It was written out in braces. -/
  | inline
deriving DecidableEq, Repr

/-- A value in a document. -/
inductive Toml where
  | text (value : String)
  | integer (value : Int64)
  | float (value : Binary64)
  | boolean (value : Bool)
  | dateTime (written : String)
  | list (items : List Toml)
  | table (origin : TableOrigin) (entries : List (String × Toml))
  /-- Tables in a row, each with a header of its own, the latest one last. -/
  | tables (elements : List (List (String × Toml)))
deriving Repr

namespace Toml

/-- The entries of a table in the order in which they were added, each name once. -/
abbrev Entries := List (String × Toml)

/-! ### Entries -/

def find? (name : String) : Entries → Option Toml
  | [] => none
  | (other, value) :: entries => if other = name then some value else find? name entries

/-- The entries with the value of a name put in the place of the old one, or at the end. -/
def put (name : String) (value : Toml) : Entries → Entries
  | [] => [(name, value)]
  | (other, old) :: entries =>
    if other = name then (other, value) :: entries else (other, old) :: put name value entries

/-! ### Growing a document -/

/-- May a path enter a table of the second origin, when the tables that it makes on its way are of
    the first one? The path of a header enters every table that is not closed; a dotted key enters
    only tables without a header. -/
def mayEnter (made : TableOrigin) : TableOrigin → Bool
  | .header => made = .implied
  | .implied => true
  | .dotted => true
  | .inline => false

/-- Change the entries of the table at the end of a path. Tables that are missing on the way are
    made; where tables stand in a row, the path goes through the latest one. -/
def changeAt (made : TableOrigin) (change : TableOrigin → Entries → Option Entries) :
    List String → TableOrigin → Entries → Option Entries
  | [], origin, entries => change origin entries
  | name :: path, _, entries =>
    match find? name entries with
    | none =>
      (changeAt made change path made []).map fun inner => put name (.table made inner) entries
    | some (.table origin inner) =>
      if mayEnter made origin then
        (changeAt made change path origin inner).map fun inner =>
          put name (.table origin inner) entries
      else none
    | some (.tables elements) =>
      match elements.getLast? with
      | none => none
      | some latest =>
        (changeAt made change path .header latest).map fun latest =>
          put name (.tables (elements.dropLast ++ [latest])) entries
    | some _ => none

/-- Add a value under a dotted key. Its name must be new, and the table in which it ends must have
    been made by dotted keys, unless the key has no dots. -/
def insert (path : List String) (name : String) (value : Toml) (origin : TableOrigin)
    (entries : Entries) : Option Entries :=
  let add (origin : TableOrigin) (entries : Entries) : Option Entries :=
    if path.isEmpty || origin = .dotted then
      match find? name entries with
      | none => some (put name value entries)
      | some _ => none
    else none
  changeAt .dotted add path origin entries

/-- Open the table of a header: it must be new, or only implied so far. -/
def openTable (path : List String) (name : String) (entries : Entries) : Option Entries :=
  let start (_ : TableOrigin) (entries : Entries) : Option Entries :=
    match find? name entries with
    | none => some (put name (.table .header []) entries)
    | some (.table .implied inner) => some (put name (.table .header inner) entries)
    | some _ => none
  changeAt .implied start path .header entries

/-- Open one more table in a row of tables. -/
def openElement (path : List String) (name : String) (entries : Entries) : Option Entries :=
  let start (_ : TableOrigin) (entries : Entries) : Option Entries :=
    match find? name entries with
    | none => some (put name (.tables [[]]) entries)
    | some (.tables elements) => some (put name (.tables (elements ++ [[]])) entries)
    | some _ => none
  changeAt .implied start path .header entries

def insertBelow (header path : List String) (name : String) (value : Toml) (entries : Entries) :
    Option Entries :=
  changeAt .implied (insert path name value) header .header entries

end Toml

end Bookshop
