import Bookshop.Text.Hex
import Bookshop.Text.Pieces

/-!
# Tables of code points

A property of characters is a table of spans, sorted by code point. A span is written with its
first code point, its last one after a hyphen, its stride after a slash, and values after a greater
sign with points between them; all numbers are hexadecimal. A span without a last code point has
only the first, and one without a stride has every code point up to its last.
-/

namespace Bookshop.Unicode

/-- Code points at equal distances, with the values that the first of them has. -/
structure Span where
  first : Nat
  last : Nat
  stride : Nat
  values : List Nat
deriving DecidableEq, Repr

def Span.contains (span : Span) (point : Nat) : Bool :=
  span.first ≤ point && point ≤ span.last && (point - span.first) % span.stride = 0

/-- Spans in the order of their code points. -/
abbrev Table := Array Span

namespace Table

/-! ### Reading -/

def number (cs : List Char) : Nat := cs.foldl (fun n c => 16 * n + (hexValue? c).getD 0) 0

/-- The text before the first mark and after it; nothing after it if there is no mark. -/
def cut (mark : Char) (cs : List Char) : List Char × List Char :=
  (cs.takeWhile (· ≠ mark), (cs.dropWhile (· ≠ mark)).drop 1)

def span (cs : List Char) : Span :=
  let (range, values) := cut '>' cs
  let (range, stride) := cut '/' range
  let (first, last) := cut '-' range
  { first := number first
    last := number (if last.isEmpty then first else last)
    stride := if stride.isEmpty then 1 else number stride
    values := if values.isEmpty then [] else (pieces (· = '.') values).map number }

/-- The table that a text spells, with blanks and line feeds between the spans. -/
def ofText (text : String) : Table :=
  let words := (pieces (fun c => c = ' ' || c = '\n') text.toList).filter (!·.isEmpty)
  (words.map span).toArray

/-! ### Looking up -/

/-- The span of a code point among so many spans from a place on, by halving. -/
def search (table : Table) (point : Nat) (start count : Nat) : Option Span :=
  if _h : count = 0 then none
  else
    match table[start + count / 2]? with
    | none => none
    | some span =>
      if point < span.first then search table point start (count / 2)
      else if span.last < point then
        search table point (start + count / 2 + 1) (count - count / 2 - 1)
      else if span.contains point then some span
      else none
termination_by count
decreasing_by all_goals omega

def spanAt? (table : Table) (point : Nat) : Option Span := table.search point 0 table.size

def contains (table : Table) (point : Nat) : Bool := (table.spanAt? point).isSome

example : span "41-5A/2>61.62".toList = ⟨0x41, 0x5A, 2, [0x61, 0x62]⟩ := by decide
example : (ofText "41 61-7A\nE0").toList.map Span.last = [0x41, 0x7A, 0xE0] := by decide

end Table

end Bookshop.Unicode
