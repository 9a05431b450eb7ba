import Bookshop.Fetch.Header
import Bookshop.Text.Digits
import Bookshop.Text.Hex
import Bookshop.Text.Pieces

/-!
# Answers on the wire

An answer comes as bytes: a line with its status, lines with its headers, an empty line, and then
the body. The head says how long the body is, either by a number of bytes, or by sending it in
chunks that each say their length, or by not saying it, so that the body ends where the bytes do.
Bytes that are not an answer in this form, or that end too early, are no answer at all.
-/

namespace Bookshop

structure Head where
  version : Nat
  status : Nat
  headers : List Header.Line
deriving DecidableEq, Repr

/-- How the end of a body is found. -/
inductive Framing where
  | sized (length : Nat)
  | chunked
  | untilEnd
deriving DecidableEq, Repr

namespace Head

/-! ### Lines -/

/-- The first line and what comes after it. A line ends with a line feed, which a carriage return
    may precede. -/
def cutLine (bytes : Bytes) : Option (Bytes × Bytes) :=
  let line := bytes.takeWhile (· ≠ 0x0A)
  match bytes.dropWhile (· ≠ 0x0A) with
  | [] => none
  | _ :: rest => some (if line.getLast? = some 0x0D then line.dropLast else line, rest)

/-- Read the lines of headers up to the empty line, at most so many. -/
def lines? : Nat → Bytes → Option (List Header.Line × Bytes)
  | limit, bytes => do
    let (line, rest) ← cutLine bytes
    if line.isEmpty then pure ([], rest)
    else
      match limit with
      | 0 => none
      | limit + 1 =>
        let header ← Header.line? line
        let (headers, rest) ← lines? limit rest
        pure (header :: headers, rest)

def maxHeaders : Nat := 100

def statusLine? (line : Bytes) : Option (Nat × Nat) :=
  match Header.chars line with
  | 'H' :: 'T' :: 'T' :: 'P' :: '/' :: '1' :: '.' :: v :: ' ' :: a :: b :: c :: remark => do
    let version ← digit? v
    let status ← [a, b, c].mapM digit?
    let isRemark := remark.all fun c => Header.isValueByte (.ofNat c.toNat)
    if version ≤ 1 && 100 ≤ ofDigits status && (remark.isEmpty || remark.head? = some ' ') &&
        isRemark then
      pure (version, ofDigits status)
    else none
  | _ => none

/-- Empty lines before an answer count for nothing. -/
def skipLines : Bytes → Bytes
  | 0x0A :: rest => skipLines rest
  | 0x0D :: 0x0A :: rest => skipLines rest
  | bytes => bytes

def read? (bytes : Bytes) : Option (Head × Bytes) := do
  let (line, rest) ← cutLine (skipLines bytes)
  let (version, status) ← statusLine? line
  let (headers, rest) ← lines? maxHeaders rest
  pure (⟨version, status, headers⟩, rest)

def isInterim (head : Head) : Bool :=
  100 ≤ head.status && head.status < 200 && head.status ≠ 101

/-- Read heads up to the first that is no mere sign of progress, at most so many. -/
def readFinal? : Nat → Bytes → Option (Head × Bytes)
  | 0, _ => none
  | limit + 1, bytes => do
    let (head, rest) ← read? bytes
    if head.isInterim then readFinal? limit rest else pure (head, rest)

/-! ### Framing -/

def hasBody (head : Head) : Bool :=
  head.status ≠ 101 && head.status ≠ 204 && head.status ≠ 304

/-- The words of a value between its commas, without the blanks around them. A value that is not
    ASCII says nothing. -/
def words (value : Bytes) : List (List Char) :=
  if value.all (· < 127) then
    (pieces (· = ',') (Header.chars value)).map (Header.strip fun c => c = ' ' || c = '\t')
  else [[]]

/-- The length that all announcements agree on. -/
def length? (values : List Bytes) : Option Nat := do
  let lengths ← (values.flatMap words).mapM fun word => do
    let digits ← word.mapM digit?
    if digits.isEmpty || Nat.pow 2 64 ≤ ofDigits digits then none else pure (ofDigits digits)
  match lengths with
  | [] => none
  | length :: others => if others.all (· = length) then some length else none

/-- How the end of the body is found; none if the head contradicts itself. -/
def framing? (head : Head) : Option Framing :=
  let encodings := Header.values "transfer-encoding" head.headers
  let lengths := Header.values "content-length" head.headers
  if !head.hasBody then some (.sized 0)
  else
    match encodings.getLast? with
    | some encoding =>
      let last := ((words encoding).getLast?.getD []).map Char.toLower
      if head.version = 0 then none
      else if last = "chunked".toList then some .chunked
      else some .untilEnd
    | none => if lengths.isEmpty then some .untilEnd else (length? lengths).map .sized

end Head

namespace Framing

/-! ### Bodies -/

/-- Read the line before a chunk: its length in hexadecimal digits, which blanks and remarks after a
    semicolon may follow. -/
def chunkSize? (bytes : Bytes) : Option (Nat × Bytes) :=
  let line := Header.chars (bytes.takeWhile (· ≠ 0x0D))
  let size := line.takeWhile fun c => (hexValue? c).isSome
  let after := (line.dropWhile fun c => (hexValue? c).isSome).dropWhile fun c => c = ' ' || c = '\t'
  match bytes.dropWhile (· ≠ 0x0D) with
  | 0x0D :: 0x0A :: rest =>
    if size.isEmpty || line.contains '\n' || !(after.isEmpty || after.head? = some ';') then none
    else some (size.foldl (fun n c => 16 * n + (hexValue? c).getD 0) 0, rest)
  | _ => none

/-- Read chunks, at most so many, up to an empty one and the headers that follow it. -/
def chunks? : Nat → Bytes → Option Bytes
  | 0, _ => none
  | limit + 1, bytes => do
    let (size, rest) ← chunkSize? bytes
    if size = 0 then
      let _ ← Head.lines? Head.maxHeaders rest
      pure []
    else
      match rest.drop size with
      | 0x0D :: 0x0A :: others => do
        let body ← chunks? limit others
        pure (rest.take size ++ body)
      | _ => none

/-- The body at the start of the bytes; none if they end too early. -/
def body? (framing : Framing) (bytes : Bytes) : Option Bytes :=
  match framing with
  | .sized length => if length ≤ bytes.length then some (bytes.take length) else none
  | .chunked => chunks? (bytes.length + 1) bytes
  | .untilEnd => some bytes

end Framing

end Bookshop
