import Bookshop.Fetch.Url

/-!
# References

An answer may name another address by a reference, which says only in what that address differs
from the one that was asked. Resolving a reference fills in the rest, and walks the steps up and on
the spot in its path. References are strict: a character that has no place in an address has to be
percent-encoded in them.
-/

namespace Bookshop

/-- A reference to an address, by its parts. -/
structure Reference where
  scheme : Option (List Char)
  authority : Option (List Char)
  path : List Char
  query : Option (List Char)
  fragment : Option (List Char)
deriving DecidableEq, Repr

namespace Reference

/-! ### Characters -/

def isUnreserved (c : Char) : Bool := c.isAlphanum || "-._~".toList.contains c

def isDelimiter (c : Char) : Bool := "!$&'()*+,;=".toList.contains c

def isPathChar (c : Char) : Bool := isUnreserved c || isDelimiter c || c = ':' || c = '@'

/-- Nothing but characters of a class and bytes written with percent signs. -/
def isEncoded (isPlain : Char → Bool) : List Char → Bool
  | [] => true
  | '%' :: high :: low :: rest =>
    (hexValue? high).isSome && (hexValue? low).isSome && isEncoded isPlain rest
  | c :: rest => c ≠ '%' && isPlain c && isEncoded isPlain rest

/-! ### Parts -/

/-- The text before and after the last character of a class, if there is one. -/
def cutLast? (mark : Char) (cs : List Char) : Option (List Char × List Char) :=
  let after := (cs.reverse.takeWhile (· ≠ mark)).reverse
  if cs.contains mark then some (cs.take (cs.length - after.length - 1), after) else none

def isScheme : List Char → Bool
  | [] => false
  | first :: others => first.isAlpha && others.all fun c => c.isAlphanum || "+-.".toList.contains c

def isBracketed (cs : List Char) : Bool :=
  match cs with
  | 'v' :: rest | 'V' :: rest =>
    let version := rest.takeWhile (· ≠ '.')
    let address := (rest.dropWhile (· ≠ '.')).drop 1
    !version.isEmpty && version.all (fun c => (hexValue? c).isSome) && !address.isEmpty &&
      address.all fun c => isUnreserved c || isDelimiter c || c = ':'
  | _ => (Host.long? cs).isSome

def isHost (cs : List Char) : Bool :=
  match cs with
  | '[' :: rest => rest.getLast? = some ']' && isBracketed rest.dropLast
  | _ => isEncoded (fun c => isUnreserved c || isDelimiter c) cs

def isAuthority (cs : List Char) : Bool :=
  let isUser (c : Char) : Bool := isUnreserved c || isDelimiter c || c = ':'
  let (user, site) := (cutLast? '@' cs).getD ([], cs)
  let host := match cutLast? ':' site with
    | some (host, socket) => if socket.all Char.isDigit then host else site
    | none => site
  isEncoded isUser user && isHost host

def isValid (reference : Reference) : Bool :=
  let isQuery (c : Char) : Bool := isPathChar c || c = '/' || c = '?'
  reference.scheme.all isScheme && reference.authority.all isAuthority &&
    isEncoded (fun c => isPathChar c || c = '/') reference.path &&
    reference.query.all (isEncoded isQuery) && reference.fragment.all (isEncoded isQuery)

/-! ### Reading and writing -/

/-- The part after a mark, if the text starts with it, and what comes after that part. -/
def cutPart (mark : Char) (ends : Char → Bool) (cs : List Char) :
    Option (List Char) × List Char :=
  match cs with
  | c :: rest =>
    if c = mark then (some (rest.takeWhile (!ends ·)), rest.dropWhile (!ends ·)) else (none, cs)
  | [] => (none, [])

/-- Read a reference. A colon before any other mark ends a scheme. -/
def parse? (cs : List Char) : Option Reference :=
  let marks (c : Char) : Bool := c = '/' || c = '?' || c = '#'
  let start := cs.takeWhile fun c => c ≠ ':' && !marks c
  let (scheme, rest) := match cs.drop start.length with
    | ':' :: rest => (some start, rest)
    | _ => (none, cs)
  let (authority, rest) := match rest with
    | '/' :: '/' :: rest => (some (rest.takeWhile (!marks ·)), rest.dropWhile (!marks ·))
    | _ => (none, rest)
  let path := rest.takeWhile fun c => c ≠ '?' && c ≠ '#'
  let (query, rest) := cutPart '?' (· = '#') (rest.drop path.length)
  let (fragment, _) := cutPart '#' (fun _ => false) rest
  let reference : Reference := ⟨scheme, authority, path, query, fragment⟩
  if reference.isValid then some reference else none

def text (reference : Reference) : List Char :=
  (match reference.scheme with | some scheme => scheme ++ [':'] | none => []) ++
  (match reference.authority with | some authority => "//".toList ++ authority | none => []) ++
  reference.path ++
  (match reference.query with | some query => '?' :: query | none => []) ++
  (match reference.fragment with | some fragment => '#' :: fragment | none => [])

/-! ### Resolution -/

def walk (folder : List (List Char)) (segment : List Char) : List (List Char) :=
  if Url.isStepUp segment then folder.dropLast
  else if Url.isStepOnSpot segment then folder
  else folder ++ [segment]

def straighten (path : List Char) : List Char :=
  let segments := pieces (· = '/') (path.drop 1)
  let last := segments.getLast?.getD []
  let folder := segments.dropLast.foldl walk []
  let isStep := Url.isStepUp last || Url.isStepOnSpot last
  let folder := if isStep then walk folder last else folder
  '/' :: (folder.flatMap (· ++ ['/']) ++ if isStep then [] else last)

def straightened (path : List Char) : List Char :=
  if path.head? = some '/' then straighten path else path

/-- What the reference stands for in an answer from an address. -/
def resolve (base reference : Reference) : Reference :=
  if reference.scheme.isSome then { reference with path := straightened reference.path }
  else if reference.authority.isSome then
    { reference with scheme := base.scheme, path := straightened reference.path }
  else if reference.path.isEmpty then
    { base with query := reference.query.or base.query, fragment := reference.fragment }
  else
    let path := if reference.path.head? = some '/' then reference.path
      else ((cutLast? '/' base.path).getD ([], [])).1 ++ '/' :: reference.path
    { base with path := straighten path, query := reference.query, fragment := reference.fragment }

/-! ### Requests -/

/-- Can a request be made of the reference? A host has to be in it, without a byte written with a
    percent sign; or it is nothing but a scheme and a name, which could be a host. -/
def isRequestable (reference : Reference) : Bool :=
  let isSite (cs : List Char) : Bool :=
    let site := match cutLast? '@' cs with | some (_, site) => site | none => cs
    let site := match cutLast? ']' site with | some (_, socket) => socket | none => site
    !cs.isEmpty && cs.getLast? ≠ some '@' && !site.contains '%' && site.count ':' ≤ 1
  match reference.authority with
  | some authority => isSite authority
  | none =>
    reference.query.isNone && reference.fragment.isNone && !reference.path.contains '/' &&
      isSite reference.text

example : ((parse? "http://h/a/b?q".toList).bind fun base =>
    (parse? "../c/./d".toList).map fun r => (resolve base r).text) =
    some "http://h/c/d".toList := by decide
example : parse? "a b".toList = none := by decide
example : parse? "1a:b".toList = none := by decide

end Reference

end Bookshop
