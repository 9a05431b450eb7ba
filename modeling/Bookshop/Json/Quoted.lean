import Bookshop.Text.Utf8

/-!
# JSON strings

A string is held between its quotes as raw bytes. Writing escapes quotes, backslashes and control
characters and leaves everything else as it is; reading resolves every escape that JSON has. An
escape of a surrogate counts only as half of a pair.
-/

namespace Bookshop

namespace Quoted

/-! ### Writing -/

def hexDigit (n : Nat) : UInt8 := .ofNat (if n < 10 then 48 + n else 87 + n)

def escapeByte (b : UInt8) : Bytes :=
  if b = 0x22 then [0x5C, 0x22]
  else if b = 0x5C then [0x5C, 0x5C]
  else if b = 0x08 then [0x5C, 0x62]
  else if b = 0x0C then [0x5C, 0x66]
  else if b = 0x0A then [0x5C, 0x6E]
  else if b = 0x0D then [0x5C, 0x72]
  else if b = 0x09 then [0x5C, 0x74]
  else if b < 0x20 then
    [0x5C, 0x75, 0x30, 0x30, hexDigit (b.toNat / 16), hexDigit (b.toNat % 16)]
  else [b]

def escape (bytes : Bytes) : Bytes := bytes.flatMap escapeByte

/-! ### Reading -/

def hexValue? (b : UInt8) : Option Nat :=
  let n := b.toNat
  if 48 ≤ n ∧ n ≤ 57 then some (n - 48)
  else if 97 ≤ n ∧ n ≤ 102 then some (n - 87)
  else if 65 ≤ n ∧ n ≤ 70 then some (n - 55)
  else none

def unit? (a b c d : UInt8) : Option Nat := do
  let a ← hexValue? a
  let b ← hexValue? b
  let c ← hexValue? c
  let d ← hexValue? d
  pure (((a * 16 + b) * 16 + c) * 16 + d)

def simpleEscape? (b : UInt8) : Option UInt8 :=
  if b = 0x22 ∨ b = 0x5C ∨ b = 0x2F then some b
  else if b = 0x62 then some 0x08
  else if b = 0x66 then some 0x0C
  else if b = 0x6E then some 0x0A
  else if b = 0x72 then some 0x0D
  else if b = 0x74 then some 0x09
  else none

/-- Is the UTF-16 unit the first half of a surrogate pair? -/
def isHigh (n : Nat) : Bool := 0xD800 ≤ n && n < 0xDC00

/-- Is the UTF-16 unit the second half of a surrogate pair? -/
def isLow (n : Nat) : Bool := 0xDC00 ≤ n && n < 0xE000

def pairChar (high low : Nat) : Char :=
  Char.ofNat (0x10000 + (high - 0xD800) * 0x400 + (low - 0xDC00))

/-- Resolve the escapes of a raw string; none when an escape is malformed or a surrogate is
    without its other half. -/
def unescape? : Bytes → Option Bytes
  | [] => some []
  | b :: rest =>
    if b ≠ 0x5C then (b :: ·) <$> unescape? rest
    else
      match rest with
      | [] => none
      | e :: rest =>
        if e ≠ 0x75 then do
          let c ← simpleEscape? e
          (c :: ·) <$> unescape? rest
        else
          match rest with
          | h₁ :: h₂ :: h₃ :: h₄ :: rest => do
            let high ← unit? h₁ h₂ h₃ h₄
            if isLow high then none
            else if isHigh high then
              match rest with
              | s :: u :: l₁ :: l₂ :: l₃ :: l₄ :: rest => do
                let low ← unit? l₁ l₂ l₃ l₄
                if s = 0x5C ∧ u = 0x75 ∧ isLow low then
                  (Utf8.encodeChar (pairChar high low) ++ ·) <$> unescape? rest
                else none
              | _ => none
            else (Utf8.encodeChar (Char.ofNat high) ++ ·) <$> unescape? rest
          | _ => none

def ofText (text : String) : Bytes := escape (Utf8.encode text)

/-- The text of a raw string: its escapes must be sound and its bytes UTF-8. -/
def toText? (raw : Bytes) : Option String := (unescape? raw).bind Utf8.decode?

end Quoted

end Bookshop
