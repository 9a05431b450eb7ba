import Bookshop.Toml.Value

/-!
# TOML documents

A document is a sequence of statements, each on a line of its own: an entry, the header of a table,
the header of one more table in a row, or nothing but a comment. Entries belong to the table of the
header before them, and to the document itself if there is none.
-/

namespace Bookshop.Toml

/-- A document that is being read: what it holds so far, and the path of the latest header. -/
structure Draft where
  entries : Entries := []
  header : List String := []

def finishLine (draft : Option Draft) (cs : List Char) : Option (Draft × List Char) :=
  match draft, endLine? cs with
  | some draft, some cs => some (draft, cs)
  | _, _ => none

def statement? (draft : Draft) : List Char → Option (Draft × List Char)
  | '[' :: '[' :: cs =>
    match key? cs with
    | some ((path, name), ']' :: ']' :: cs) =>
      finishLine ((openElement path name draft.entries).map (⟨·, path ++ [name]⟩)) cs
    | _ => none
  | '[' :: cs =>
    match key? cs with
    | some ((path, name), ']' :: cs) =>
      finishLine ((openTable path name draft.entries).map (⟨·, path ++ [name]⟩)) cs
    | _ => none
  | cs =>
    match dropComment cs with
    | [] => some (draft, [])
    | c :: rest =>
      match newline? (c :: rest) with
      | some cs => some (draft, cs)
      | none =>
        match entry? value? cs with
        | some ((path, name, value), cs) =>
          finishLine
            ((insertBelow draft.header path name value draft.entries).map (⟨·, draft.header⟩)) cs
        | none => none

/-- Read up to so many statements on to the end of the text. -/
def statements? (most : Nat) (draft : Draft) (cs : List Char) : Option Draft :=
  match dropSpace cs with
  | [] => some draft
  | cs =>
    match most with
    | 0 => none
    | most + 1 =>
      match statement? draft cs with
      | none => none
      | some (draft, cs) => statements? most draft cs

def dropByteOrderMark : List Char → List Char
  | '\ufeff' :: cs => cs
  | cs => cs

def read? (text : String) : Option Toml :=
  let cs := dropByteOrderMark text.toList
  (statements? cs.length {} cs).map fun draft => .table .header draft.entries

end Bookshop.Toml
