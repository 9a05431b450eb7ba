import Bookshop.Json.Basic

/-!
# Reading JSON

The text is read byte by byte by a machine with a stack of the lists and records that are open.
Each byte moves the machine one step, so reading is a fold over the bytes: it ends after every
text, however deeply nested. A fault stops the machine for good; what it has read by then becomes
the tree.
-/

namespace Bookshop

namespace Json

/-! ### The machine -/

/-- An open list or record, with what it holds so far, the latest first. -/
inductive Frame where
  | list (items : List Json)
  /-- A record between two members. -/
  | record (members : List Member)
  /-- A record whose member of the given name is due its value. -/
  | member (members : List Member) (name : Bytes)
deriving Repr

inductive Escape where
  | none
  | begun
  /-- Inside a numbered escape: how many hexadecimal digits are due. -/
  | digits (due : Nat)
deriving DecidableEq, Repr

inductive NumeralPhase where
  | sign
  | leadingZero
  | whole
  | point
  | fraction
  | exponentMark
  | exponentSign
  | exponent
deriving DecidableEq, Repr

/-- A numeral as far as it has been read: its digits with the latest first. -/
structure OpenNumeral where
  phase : NumeralPhase
  negative : Bool := false
  whole : List Nat := []
  fraction : List Nat := []
  exponentNegative : Bool := false
  exponent : Nat := 0
deriving Repr

/-- What the machine expects next. -/
inductive Expect where
  /-- A value; instead of it the end of the list, right after its bracket. -/
  | value (orEnd : Bool)
  /-- The name of a member; instead of it the end of the record, right after its brace. -/
  | name (orEnd : Bool)
  | colon
  /-- More of a string, which is a name or a value; its raw bytes so far, the latest first. -/
  | string (isName : Bool) (raw : Bytes) (escape : Escape)
  | numeral (read : OpenNumeral)
  /-- The rest of a word that stands for the given value. -/
  | word (rest : Bytes) (value : Json)
  | after (value : Json)
deriving Repr

/-- The machine: what it expects and the lists and records that are open, the innermost first; or
    the tree that was read before the text broke the grammar. -/
inductive Machine where
  | reading (expect : Expect) (stack : List Frame)
  | stopped (tree : Json)
deriving Repr

def start : Machine := .reading (.value false) []

/-! ### Where the text breaks off -/

/-- The tree of a value, which is the last thing read, inside lists and records that stay open. -/
def enclose (value : Json) : List Frame → Json
  | [] => value
  | .list items :: stack => enclose (.list (value :: items).reverse false) stack
  | .record members :: stack => enclose (.record members.reverse false) stack
  | .member members name :: stack =>
    enclose (.record ((name, value) :: members).reverse false) stack

def OpenNumeral.numeral (n : OpenNumeral) : Numeral where
  negative := n.negative
  whole := n.whole.reverse
  fraction := n.fraction.reverse
  exponent :=
    if n.phase = .exponent then
      some (if n.exponentNegative then -(n.exponent : Int) else n.exponent)
    else none

def OpenNumeral.mayEnd (n : OpenNumeral) : Bool :=
  match n.phase with
  | .leadingZero | .whole | .fraction | .exponent => true
  | .sign | .point | .exponentMark | .exponentSign => false

/-- The tree when the text breaks off while something is expected. -/
def breakOff (expect : Expect) (stack : List Frame) : Json :=
  match expect with
  | .after value => enclose value stack
  | .numeral n => enclose (if n.mayEnd then .number n.numeral else .cut) stack
  | _ => enclose .cut stack

/-! ### Steps -/

def isSpace (b : UInt8) : Bool := b == 0x20 || b == 0x09 || b == 0x0A || b == 0x0D

def digitOf? (b : UInt8) : Option Nat :=
  if 0x30 ≤ b ∧ b ≤ 0x39 then some (b.toNat - 48) else none

/-- The first byte of a value, which is not the end of a list. -/
def openValue (stack : List Frame) (b : UInt8) : Machine :=
  if b = 0x22 then .reading (.string false [] .none) stack
  else if b = 0x5B then .reading (.value true) (.list [] :: stack)
  else if b = 0x7B then .reading (.name true) (.record [] :: stack)
  else if b = 0x6E then .reading (.word [0x75, 0x6C, 0x6C] .null) stack
  else if b = 0x74 then .reading (.word [0x72, 0x75, 0x65] (.bool true)) stack
  else if b = 0x66 then .reading (.word [0x61, 0x6C, 0x73, 0x65] (.bool false)) stack
  else if b = 0x2D then .reading (.numeral { phase := .sign, negative := true }) stack
  else
    match digitOf? b with
    | some 0 => .reading (.numeral { phase := .leadingZero, whole := [0] }) stack
    | some d => .reading (.numeral { phase := .whole, whole := [d] }) stack
    | none => .stopped (enclose .cut stack)

/-- A byte after a complete value: a comma, the end of what is around it, or a space. -/
def stepAfter (value : Json) (stack : List Frame) (b : UInt8) : Machine :=
  if isSpace b then .reading (.after value) stack
  else
    match stack with
    | .list items :: outer =>
      if b = 0x2C then .reading (.value false) (.list (value :: items) :: outer)
      else if b = 0x5D then .reading (.after (.list (value :: items).reverse true)) outer
      else .stopped (enclose value stack)
    | .member members name :: outer =>
      if b = 0x2C then .reading (.name false) (.record ((name, value) :: members) :: outer)
      else if b = 0x7D then
        .reading (.after (.record ((name, value) :: members).reverse true)) outer
      else .stopped (enclose value stack)
    | _ => .stopped (enclose value stack)

def stepValue (orEnd : Bool) (stack : List Frame) (b : UInt8) : Machine :=
  if isSpace b then .reading (.value orEnd) stack
  else if orEnd ∧ b = 0x5D then
    match stack with
    | .list items :: outer => .reading (.after (.list items.reverse true)) outer
    | _ => .stopped (enclose .cut stack)
  else openValue stack b

def stepName (orEnd : Bool) (stack : List Frame) (b : UInt8) : Machine :=
  if isSpace b then .reading (.name orEnd) stack
  else if b = 0x22 then .reading (.string true [] .none) stack
  else if orEnd ∧ b = 0x7D then
    match stack with
    | .record members :: outer => .reading (.after (.record members.reverse true)) outer
    | _ => .stopped (enclose .cut stack)
  else .stopped (enclose .cut stack)

def stepColon (stack : List Frame) (b : UInt8) : Machine :=
  if isSpace b then .reading .colon stack
  else if b = 0x3A then .reading (.value false) stack
  else .stopped (enclose .cut stack)

def closeString (isName : Bool) (raw : Bytes) (stack : List Frame) : Machine :=
  if isName then
    match stack with
    | .record members :: outer => .reading .colon (.member members raw :: outer)
    | _ => .stopped (enclose .cut stack)
  else .reading (.after (.string raw)) stack

def isEscapeLetter (b : UInt8) : Bool := b == 0x75 || (Quoted.simpleEscape? b).isSome

/-- A byte inside a string; control characters are not allowed there. -/
def stepString (isName : Bool) (raw : Bytes) (escape : Escape) (stack : List Frame)
    (b : UInt8) : Machine :=
  let continueWith (escape : Escape) : Machine :=
    .reading (.string isName (b :: raw) escape) stack
  match escape with
  | .none =>
    if b = 0x22 then closeString isName raw.reverse stack
    else if b = 0x5C then continueWith .begun
    else if b < 0x20 then .stopped (enclose .cut stack)
    else continueWith .none
  | .begun =>
    if isEscapeLetter b then continueWith (if b = 0x75 then .digits 4 else .none)
    else .stopped (enclose .cut stack)
  | .digits due =>
    if (Quoted.hexValue? b).isSome then
      continueWith (if due ≤ 1 then .none else .digits (due - 1))
    else .stopped (enclose .cut stack)

/-- A byte that continues a numeral; none when the numeral does not go on with it. -/
def OpenNumeral.next? (n : OpenNumeral) (b : UInt8) : Option OpenNumeral :=
  let isMark : Bool := b == 0x65 || b == 0x45
  let toWhole (d : Nat) : OpenNumeral := { n with phase := .whole, whole := d :: n.whole }
  let toFraction (d : Nat) : OpenNumeral :=
    { n with phase := .fraction, fraction := d :: n.fraction }
  let toExponent (d : Nat) : OpenNumeral :=
    { n with phase := .exponent, exponent := 10 * n.exponent + d }
  match n.phase, digitOf? b with
  | .sign, some 0 => some { n with phase := .leadingZero, whole := [0] }
  | .sign, some d | .whole, some d => some (toWhole d)
  | .point, some d | .fraction, some d => some (toFraction d)
  | .exponentMark, some d | .exponentSign, some d | .exponent, some d => some (toExponent d)
  | .leadingZero, none | .whole, none =>
    if b = 0x2E then some { n with phase := .point }
    else if isMark then some { n with phase := .exponentMark }
    else none
  | .fraction, none => if isMark then some { n with phase := .exponentMark } else none
  | .exponentMark, none =>
    if b = 0x2B then some { n with phase := .exponentSign }
    else if b = 0x2D then some { n with phase := .exponentSign, exponentNegative := true }
    else none
  | _, _ => none

/-- A byte inside a numeral or right after it. A digit never follows a leading zero. -/
def stepNumeral (n : OpenNumeral) (stack : List Frame) (b : UInt8) : Machine :=
  match n.next? b with
  | some n => .reading (.numeral n) stack
  | none =>
    if n.mayEnd && (digitOf? b).isNone then stepAfter (.number n.numeral) stack b
    else .stopped (enclose .cut stack)

def stepWord (rest : Bytes) (value : Json) (stack : List Frame) (b : UInt8) : Machine :=
  match rest with
  | [] => stepAfter value stack b
  | [last] =>
    if b = last then .reading (.after value) stack else .stopped (enclose .cut stack)
  | next :: rest =>
    if b = next then .reading (.word rest value) stack else .stopped (enclose .cut stack)

def step : Machine → UInt8 → Machine
  | .stopped tree, _ => .stopped tree
  | .reading expect stack, b =>
    match expect with
    | .value orEnd => stepValue orEnd stack b
    | .name orEnd => stepName orEnd stack b
    | .colon => stepColon stack b
    | .string isName raw escape => stepString isName raw escape stack b
    | .numeral n => stepNumeral n stack b
    | .word rest value => stepWord rest value stack b
    | .after value => stepAfter value stack b

/-! ### Whole documents -/

/-- What was read of a document, and whether the document is well-formed to its end. -/
structure Document where
  tree : Json
  complete : Bool
deriving Repr

def finish : Machine → Document
  | .stopped tree => ⟨tree, false⟩
  | .reading expect stack =>
    let ended : Bool :=
      match expect, stack with
      | .after _, [] => true
      | .numeral n, [] => n.mayEnd
      | _, _ => false
    ⟨breakOff expect stack, ended⟩

def read (bytes : Bytes) : Document := finish (bytes.foldl step start)

end Json

end Bookshop
