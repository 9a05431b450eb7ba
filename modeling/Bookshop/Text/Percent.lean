import Bookshop.Text.Hex
import Bookshop.Text.Utf8

/-!
# Percent encoding

In an address a byte may be written as a percent sign and two hexadecimal digits. Which characters
have to be written so depends on the part of the address; those outside ASCII always have to.
-/

namespace Bookshop.Percent

def encodeByte (b : UInt8) : List Char := ['%', hexChar (b.toNat / 16), hexChar (b.toNat % 16)]

/-- The text with the characters of a class, and those outside ASCII, written byte by byte. -/
def encode (isEncoded : Char → Bool) (text : List Char) : List Char :=
  text.flatMap fun c =>
    if isEncoded c || 0x7F < c.toNat then (Utf8.encodeChar c).flatMap encodeByte else [c]

/-- The bytes of a text in which bytes may be written with percent signs. A percent sign without
    two digits stands for itself. -/
def decode : List Char → Bytes
  | [] => []
  | '%' :: high :: low :: rest =>
    match hexValue? high, hexValue? low with
    | some h, some l => .ofNat (16 * h + l) :: decode rest
    | _, _ => 0x25 :: decode (high :: low :: rest)
  | c :: rest => Utf8.encodeChar c ++ decode rest

example : encode (· = ' ') "a é".toList = "a%20%C3%A9".toList := by decide

end Bookshop.Percent
