import Bookshop.Text.Utf8

/-!
# Base64

Three bytes are written as four characters of six bits each; what is missing in the last group is
filled up with equals signs.
-/

namespace Bookshop.Base64

def char (n : Nat) : Char :=
  if n < 26 then Char.ofNat (65 + n)
  else if n < 52 then Char.ofNat (71 + n)
  else if n < 62 then Char.ofNat (n - 4)
  else if n = 62 then '+'
  else '/'

def encode : Bytes → List Char
  | [] => []
  | [a] =>
    let n := a.toNat * 16
    [char (n / 64), char (n % 64), '=', '=']
  | [a, b] =>
    let n := (a.toNat * 256 + b.toNat) * 4
    [char (n / 4096), char (n / 64 % 64), char (n % 64), '=']
  | a :: b :: c :: rest =>
    let n := (a.toNat * 256 + b.toNat) * 256 + c.toNat
    char (n / 262144) :: char (n / 4096 % 64) :: char (n / 64 % 64) :: char (n % 64) :: encode rest

example : encode (Utf8.encode "user:pass") = "dXNlcjpwYXNz".toList := by decide
example : encode (Utf8.encode "a:b") = "YTpi".toList := by decide
example : encode (Utf8.encode "ab:c") = "YWI6Yw==".toList := by decide
example : encode (Utf8.encode "ab:cd") = "YWI6Y2Q=".toList := by decide

end Bookshop.Base64
