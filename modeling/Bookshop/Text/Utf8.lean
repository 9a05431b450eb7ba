/-!
# UTF-8

Bytes that come from a file or over the network are text only when they are well-formed UTF-8:
shortest forms, no surrogates, nothing above U+10FFFF. Reading stops at the first byte sequence
that cannot be completed and says where it stands and how many bytes of it are to blame, or that
the text ends too early. The ranges allowed after each leading byte are those of the standard.
-/

namespace Bookshop

/-- Raw bytes, as stored and as sent. -/
abbrev Bytes := List UInt8

namespace Utf8

/-! ### Writing -/

def encodeChar (c : Char) : Bytes :=
  let n := c.toNat
  if n < 0x80 then [.ofNat n]
  else if n < 0x800 then [.ofNat (0xC0 + n / 64), .ofNat (0x80 + n % 64)]
  else if n < 0x10000 then
    [.ofNat (0xE0 + n / 4096), .ofNat (0x80 + n / 64 % 64), .ofNat (0x80 + n % 64)]
  else
    [.ofNat (0xF0 + n / 262144), .ofNat (0x80 + n / 4096 % 64), .ofNat (0x80 + n / 64 % 64),
      .ofNat (0x80 + n % 64)]

def encode (text : String) : Bytes :=
  text.toList.flatMap encodeChar

/-! ### Reading -/

/-- Where bytes stop being UTF-8. -/
structure Fault where
  /-- How many bytes before the fault are well-formed. -/
  index : Nat
  /-- How many bytes are to blame; none when the bytes end inside a character. -/
  width : Option Nat
deriving DecidableEq, Repr

def Fault.message : Fault → String
  | ⟨index, some width⟩ => s!"invalid utf-8 sequence of {width} bytes from index {index}"
  | ⟨index, none⟩ => s!"incomplete utf-8 byte sequence from index {index}"

/-- What a leading byte announces: how many bytes follow, the payload bits it carries itself, and
    the range in which the first of the following bytes has to lie. -/
structure Lead where
  following : Nat
  payload : Nat
  low : Nat
  high : Nat
deriving DecidableEq, Repr

/-- Read a leading byte; bytes that cannot begin a character announce nothing. -/
def lead? (byte : UInt8) : Option Lead :=
  let n := byte.toNat
  if n < 0x80 then some ⟨0, n, 0, 0⟩
  else if n < 0xC2 then none
  else if n < 0xE0 then some ⟨1, n - 0xC0, 0x80, 0xBF⟩
  else if n = 0xE0 then some ⟨2, 0, 0xA0, 0xBF⟩
  else if n = 0xED then some ⟨2, 0xD, 0x80, 0x9F⟩
  else if n < 0xF0 then some ⟨2, n - 0xE0, 0x80, 0xBF⟩
  else if n = 0xF0 then some ⟨3, 0, 0x90, 0xBF⟩
  else if n < 0xF4 then some ⟨3, n - 0xF0, 0x80, 0xBF⟩
  else if n = 0xF4 then some ⟨3, 4, 0x80, 0x8F⟩
  else none

/-- A character that is being read: the payload so far, how many bytes of it were read, how many
    are due, and the range of the next one. -/
structure Pending where
  payload : Nat
  seen : Nat
  due : Nat
  low : Nat
  high : Nat
deriving DecidableEq, Repr

/-- Read on from byte number `index`, inside a character if one is pending. -/
def decodeFrom (index : Nat) (pending : Option Pending) : Bytes → Except Fault (List Char)
  | [] =>
    match pending with
    | none => .ok []
    | some p => .error ⟨index - p.seen, none⟩
  | byte :: rest =>
    match pending with
    | none =>
      match lead? byte with
      | none => .error ⟨index, some 1⟩
      | some ⟨0, n, _, _⟩ => (Char.ofNat n :: ·) <$> decodeFrom (index + 1) none rest
      | some ⟨following, n, low, high⟩ =>
        decodeFrom (index + 1) (some ⟨n, 1, following, low, high⟩) rest
    | some p =>
      let n := byte.toNat
      if n < p.low || p.high < n then .error ⟨index - p.seen, some p.seen⟩
      else
        let payload := p.payload * 64 + (n - 0x80)
        if p.due ≤ 1 then (Char.ofNat payload :: ·) <$> decodeFrom (index + 1) none rest
        else decodeFrom (index + 1) (some ⟨payload, p.seen + 1, p.due - 1, 0x80, 0xBF⟩) rest

def decode (bytes : Bytes) : Except Fault String :=
  String.ofList <$> decodeFrom 0 none bytes

def decode? (bytes : Bytes) : Option String :=
  (decode bytes).toOption

end Utf8

end Bookshop
