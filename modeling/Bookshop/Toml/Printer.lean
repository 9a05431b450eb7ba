import Bookshop.Text.Hex
import Bookshop.Toml.Space

/-!
# Writing TOML

Documents that hold nothing but texts: each entry on a line of its own, its text between double
quotes, and each table under a header of its own.
-/

namespace Bookshop.Toml

/-- One character of a text. What may not stand between quotes is a control character, so four
    digits hold its number. -/
def writeChar (c : Char) : List Char :=
  if c = '"' then ['\\', '"']
  else if c = '\\' then ['\\', '\\']
  else if isPlain c then [c]
  else
    let n := c.toNat
    ['\\', 'u', hexChar (n / 4096), hexChar (n / 256 % 16), hexChar (n / 16 % 16), hexChar (n % 16)]

def writeText (value : String) : List Char :=
  '"' :: (value.toList.flatMap writeChar ++ ['"'])

def writeEntries (entries : List (String × String)) : List Char :=
  entries.flatMap fun (name, value) =>
    name.toList ++ [' ', '=', ' '] ++ writeText value ++ ['\n']

/-- A table under its header; a table without entries is left out. -/
def writeTable (name : String) (entries : List (String × String)) : List Char :=
  if entries.isEmpty then [] else '[' :: (name.toList ++ [']', '\n'] ++ writeEntries entries)

end Bookshop.Toml
