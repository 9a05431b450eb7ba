import Bookshop.Text.Hex
import Bookshop.Toml.Space

/-!
# TOML texts

A text stands in quotes, on one line in single marks or on several lines in triple ones. Between
double quotes a backslash begins an escape; between apostrophes every character stands for itself.
A text of several lines drops a line end right after its opening quotes, writes every line end the
same way, and may end with one or two quotes of its own before the closing three.
-/

namespace Bookshop.Toml

/-! ### Pieces -/

def push (c : Char) (read : Option (List Char × List Char)) : Option (List Char × List Char) :=
  read.map fun (chars, rest) => (c :: chars, rest)

def escape? (c : Char) : Option Char :=
  if c = 'b' then some '\x08'
  else if c = 't' then some '\t'
  else if c = 'n' then some '\n'
  else if c = 'f' then some '\x0c'
  else if c = 'r' then some '\r'
  else if c = '"' then some '"'
  else if c = '\\' then some '\\'
  else none

def charOf? (n : Nat) : Option Char :=
  if n.isValidChar then some (Char.ofNat n) else none

/-- What a text ends with where it stands at its closing quotes: nothing if one quote closes it;
    where three close it, up to two more before them that belong to the text. -/
def closing? (lines : Bool) (quote : Char) (cs : List Char) : Option (List Char × List Char) :=
  let run := cs.takeWhile (· = quote)
  if lines then
    if run.length < 3 then none
    else some (run.take (min (run.length - 3) 2), cs.drop (min run.length 5))
  else if run.isEmpty then none else some ([], cs.drop 1)

def startsLine : List Char → Bool
  | '\n' :: _ => true
  | _ => false

/-! ### Between double quotes -/

/-- Where the reading of a text with escapes stands. -/
inductive TextMode where
  | plain
  | escape
  /-- In the number of a character, of which so many digits are due. -/
  | code (due value : Nat)
  /-- After a backslash and blanks; the line must end. -/
  | lineEnd
  /-- After a backslash and a line end; blanks and further line ends count for nothing. -/
  | joining
deriving DecidableEq, Repr

def basicFrom (lines : Bool) : TextMode → List Char → Option (List Char × List Char)
  | _, [] => none
  | .plain, c :: cs =>
    match closing? lines '"' (c :: cs) with
    | some done => some done
    | none =>
      if c = '\\' then basicFrom lines .escape cs
      else if isPlain c || (lines && c = '\n') then push c (basicFrom lines .plain cs)
      else if lines && c = '\r' && startsLine cs then basicFrom lines .plain cs
      else none
  | .escape, c :: cs =>
    if c = 'u' then basicFrom lines (.code 4 0) cs
    else if c = 'U' then basicFrom lines (.code 8 0) cs
    else
      match escape? c with
      | some e => push e (basicFrom lines .plain cs)
      | none =>
        if lines && isSpace c then basicFrom lines .lineEnd cs
        else if lines && c = '\n' then basicFrom lines .joining cs
        else if lines && c = '\r' && startsLine cs then basicFrom lines .lineEnd cs
        else none
  | .code due value, c :: cs =>
    match hexValue? c with
    | none => none
    | some d =>
      if 1 < due then basicFrom lines (.code (due - 1) (16 * value + d)) cs
      else
        match charOf? (16 * value + d) with
        | some e => push e (basicFrom lines .plain cs)
        | none => none
  | .lineEnd, c :: cs =>
    if isSpace c then basicFrom lines .lineEnd cs
    else if c = '\n' then basicFrom lines .joining cs
    else if c = '\r' && startsLine cs then basicFrom lines .lineEnd cs
    else none
  | .joining, c :: cs =>
    if isSpace c || c = '\n' then basicFrom lines .joining cs
    else if c = '\r' && startsLine cs then basicFrom lines .joining cs
    else
      match closing? lines '"' (c :: cs) with
      | some done => some done
      | none =>
        if c = '\\' then basicFrom lines .escape cs
        else if isPlain c then push c (basicFrom lines .plain cs)
        else none

/-! ### Between apostrophes -/

def literalFrom (lines : Bool) : List Char → Option (List Char × List Char)
  | [] => none
  | c :: cs =>
    match closing? lines '\'' (c :: cs) with
    | some done => some done
    | none =>
      if isPlain c || (lines && c = '\n') then push c (literalFrom lines cs)
      else if lines && c = '\r' && startsLine cs then literalFrom lines cs
      else none

/-! ### Texts -/

def quoted? : Scan String
  | '"' :: cs => (basicFrom false .plain cs).map fun (chars, rest) => (String.ofList chars, rest)
  | '\'' :: cs => (literalFrom false cs).map fun (chars, rest) => (String.ofList chars, rest)
  | _ => none

def text? : Scan String
  | '"' :: '"' :: '"' :: cs =>
    (basicFrom true .plain ((newline? cs).getD cs)).map fun (chars, rest) =>
      (String.ofList chars, rest)
  | '\'' :: '\'' :: '\'' :: cs =>
    (literalFrom true ((newline? cs).getD cs)).map fun (chars, rest) => (String.ofList chars, rest)
  | cs => quoted? cs

end Bookshop.Toml
