import Bookshop.Domain.Name
import Bookshop.Text.Digits
import Bookshop.Text.Percent
import Bookshop.Text.Pieces

/-!
# Hosts

The host of an address is a number of 32 bits, written with up to four numbers between points, a
number of 128 bits in square brackets, or a name. A name counts in its ASCII form, and one that ends
in a number is no name but has to be an address.
-/

namespace Bookshop

inductive Host where
  | short (address : Nat)
  | long (parts : List Nat)
  | name (text : String)
deriving DecidableEq, Repr

namespace Host

/-! ### Short addresses -/

def numeral? (base : Nat) (cs : List Char) : Option Nat :=
  cs.foldlM (fun n c =>
    match hexValue? c with
    | some d => if d < base then some (base * n + d) else none
    | none => none) 0

/-- One number of a short address: hexadecimal after `0x`, octal after `0`, else decimal. -/
def part? : List Char → Option Nat
  | [] => none
  | '0' :: 'x' :: cs => numeral? 16 cs
  | '0' :: 'X' :: cs => numeral? 16 cs
  | '0' :: c :: cs => numeral? 8 (c :: cs)
  | cs => numeral? 10 cs

/-- The numbers between the points, of which the last may be followed by a point. -/
def shortParts (cs : List Char) : List (List Char) :=
  let parts := pieces (· = '.') cs
  if parts.getLast? = some [] then parts.dropLast else parts

/-- Is the last part a number, so that the text has to be a short address? -/
def endsInNumber (cs : List Char) : Bool :=
  match (shortParts cs).getLast? with
  | none => false
  | some last => (!last.isEmpty && last.all Char.isDigit) || (part? last).isSome

/-- A short address: up to three numbers below 256, and one that fills the bytes that are left. -/
def short? (cs : List Char) : Option Nat := do
  let numbers ← (shortParts cs).mapM part?
  let last ← numbers.getLast?
  let front := numbers.dropLast
  if 3 < front.length ∨ front.any (255 < ·) ∨ Nat.pow 256 (4 - front.length) ≤ last then none
  else pure (ofBytes front * Nat.pow 256 (4 - front.length) + last)
where
  ofBytes (bytes : List Nat) : Nat := bytes.foldl (fun n b => 256 * n + b) 0

/-! ### Long addresses -/

/-- The text before and after the first two colons in a row. -/
def cutDoubleColon : List Char → Option (List Char × List Char)
  | [] => none
  | ':' :: ':' :: cs => some ([], cs)
  | c :: cs => (cutDoubleColon cs).map fun (before, after) => (c :: before, after)

def longPart? (cs : List Char) : Option Nat :=
  if cs.isEmpty || 4 < cs.length then none else numeral? 16 cs

/-- A byte in decimal without a needless zero. -/
def byte? (cs : List Char) : Option Nat :=
  match cs with
  | [] => none
  | '0' :: _ :: _ => none
  | _ =>
    match numeral? 10 cs with
    | some n => if n < 256 then some n else none
    | none => none

def embedded? (cs : List Char) : Option (List Nat) :=
  match (pieces (· = '.') cs).mapM byte? with
  | some [a, b, c, d] => some [256 * a + b, 256 * c + d]
  | _ => none

/-- The parts between single colons, where the last two may be written as a short address. -/
def longParts? (embedding : Bool) (cs : List Char) : Option (List Nat) :=
  if cs.isEmpty then some []
  else
    let parts := pieces (· = ':') cs
    match parts.getLast? with
    | none => none
    | some last => do
      let front ← parts.dropLast.mapM longPart?
      let back ← ((longPart? last).map ([·])).or (if embedding then embedded? last else none)
      pure (front ++ back)

/-- A long address: eight parts, of which two colons in a row leave out one or more zeros. -/
def long? (cs : List Char) : Option (List Nat) :=
  match cutDoubleColon cs with
  | none => do
    let parts ← longParts? true cs
    if parts.length = 8 then pure parts else none
  | some (before, after) => do
    let before ← longParts? false before
    let after ← longParts? true after
    let given := before.length + after.length
    if given < 8 then pure (before ++ List.replicate (8 - given) 0 ++ after) else none

/-! ### Reading -/

def isNameChar (c : Char) : Bool := c.isAlphanum || "!$&'()*+,-.;=_~".toList.contains c

def parse? (cs : List Char) : Option Host :=
  match cs with
  | [] => none
  | '[' :: rest => if rest.getLast? = some ']' then (long? rest.dropLast).map long else none
  | cs => do
    let text ← Utf8.decode? (Percent.decode cs)
    let cs ← Domain.toAscii? text.toList
    if cs.isEmpty || !cs.all isNameChar then none
    else if endsInNumber cs then (short? cs).map short
    else pure (name (String.ofList cs))

/-! ### Writing -/

def shortBytes (address : Nat) : List Nat :=
  [address / Nat.pow 256 3, address / Nat.pow 256 2 % 256, address / 256 % 256, address % 256]

def zeros (parts : List Nat) : Nat := (parts.takeWhile (· = 0)).length

/-- The place and the number of the most zeros in a row, the first of them if there are several. -/
def longestZeros : List Nat → Nat × Nat
  | [] => (0, 0)
  | part :: parts =>
    let (place, count) := longestZeros parts
    if count ≤ zeros (part :: parts) then (0, zeros (part :: parts)) else (place + 1, count)

def partsText (parts : List Nat) : List Char :=
  [':'].intercalate (parts.map fun part => (Nat.toDigits 16 part))

/-- A long address: two colons stand for the most zeros in a row, if there are two or more. -/
def longText (parts : List Nat) : List Char :=
  let (place, count) := longestZeros parts
  if count < 2 then partsText parts
  else partsText (parts.take place) ++ "::".toList ++ partsText (parts.drop (place + count))

def text : Host → List Char
  | .short address =>
    ['.'].intercalate ((shortBytes address).map fun b => (digitText (digits b)).toList)
  | .long parts => '[' :: (longText parts ++ [']'])
  | .name text => text.toList

example : parse? "127.0.0.1".toList = some (.short 2130706433) := by decide
example : parse? "0x7f.1".toList = some (.short 2130706433) := by decide
example : parse? "127.0.0.256".toList = none := by decide
example : parse? "[::1]".toList = some (.long [0, 0, 0, 0, 0, 0, 0, 1]) := by decide
example : parse? "[::1".toList = none := by decide
example : (parse? "0x7f.1".toList).map text = some "127.0.0.1".toList := by decide +kernel
example : text (.long [0, 1, 0, 0, 0, 0, 0, 2]) = "[0:1::2]".toList := by decide +kernel

end Host

end Bookshop
