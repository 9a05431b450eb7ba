import Bookshop.Text.Digits
import Bookshop.Toml.Space

/-!
# TOML dates and times

A date, a time of day, or a date with a time of day and perhaps its distance from universal time.
Dates must exist in the calendar and times on the clock, where a minute may have a leap second.
-/

namespace Bookshop.Toml

/-- A number of exactly so many decimal digits, within bounds. -/
def number? (count least greatest : Nat) : Scan Nat := fun cs =>
  let ds := (cs.take count).filterMap digit?
  let n := ofDigits ds
  if ds.length = count ∧ least ≤ n ∧ n ≤ greatest then some (n, cs.drop count) else none

def mark? (c : Char) : List Char → Option (List Char)
  | [] => none
  | d :: cs => if d = c then some cs else none

def isLeapYear (year : Nat) : Bool := year % 4 = 0 && (year % 100 ≠ 0 || year % 400 = 0)

def daysIn (year month : Nat) : Nat :=
  if month = 2 then (if isLeapYear year then 29 else 28)
  else if month = 4 ∨ month = 6 ∨ month = 9 ∨ month = 11 then 30
  else 31

def afterDate? (cs : List Char) : Option (List Char) := do
  let (year, cs) ← number? 4 0 9999 cs
  let (month, cs) ← number? 2 1 12 (← mark? '-' cs)
  let (_, cs) ← number? 2 1 (daysIn year month) (← mark? '-' cs)
  pure cs

def dropFraction (cs : List Char) : List Char :=
  match cs with
  | '.' :: c :: rest => if c.isDigit then rest.dropWhile Char.isDigit else cs
  | _ => cs

/-- The text after an hour and a minute. -/
def afterMinute? (cs : List Char) : Option (List Char) := do
  let (_, cs) ← number? 2 0 23 cs
  let (_, cs) ← number? 2 0 59 (← mark? ':' cs)
  pure cs

def afterTime? (cs : List Char) : Option (List Char) := do
  let cs ← afterMinute? cs
  let (_, cs) ← number? 2 0 60 (← mark? ':' cs)
  pure (dropFraction cs)

def dropOffset (cs : List Char) : List Char :=
  match cs with
  | 'Z' :: rest => rest
  | 'z' :: rest => rest
  | '+' :: rest => (afterMinute? rest).getD cs
  | '-' :: rest => (afterMinute? rest).getD cs
  | _ => cs

/-- The text after the time of day that follows a date, if there is one. -/
def dropTime (cs : List Char) : List Char :=
  match cs with
  | [] => []
  | c :: rest =>
    if c = 'T' || c = 't' || c = ' ' then
      match afterTime? rest with
      | some rest => dropOffset rest
      | none => cs
    else cs

/-- A date, a time or both, as written. -/
def dateTime? : Scan String := fun cs =>
  match (((afterDate? cs).map dropTime).or (afterTime? cs)) with
  | some rest => some (String.ofList (cs.take (cs.length - rest.length)), rest)
  | none => none

end Bookshop.Toml
