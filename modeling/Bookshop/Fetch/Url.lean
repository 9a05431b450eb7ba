import Bookshop.Fetch.Host

/-!
# Addresses of requests

An address says how a service is reached and what is asked of it. Reading one settles every freedom
that its text has: blanks and control characters at its ends count for nothing, backslashes are
slashes, steps up and on the spot are walked, and every character that has no place in a request is
percent-encoded. What comes after a number sign is never sent.
-/

namespace Bookshop

structure Url where
  secure : Bool
  user : Option (String × Option String)
  host : Host
  socket : Nat
  target : String
deriving DecidableEq, Repr

namespace Url

/-! ### Characters -/

def isMargin (c : Char) : Bool := c ≤ ' '

def isDropped (c : Char) : Bool := c = '\t' || c = '\n' || c = '\r'

def isSlash (c : Char) : Bool := c = '/' || c = '\\'

def isControl (c : Char) : Bool := c < ' ' || c = '\x7f'

def isEncodedInPath (c : Char) : Bool := isControl c || " \"#<>?\x60\x7b\x7d".toList.contains c

def isEncodedInQuery (c : Char) : Bool := isControl c || " \"#<>'".toList.contains c

def isEncodedInFragment (c : Char) : Bool := isControl c || " \"<>\x60".toList.contains c

def clean (cs : List Char) : List Char :=
  let cs := (cs.dropWhile isMargin).reverse.dropWhile isMargin
  cs.reverse.filter fun c => !isDropped c

/-! ### Schemes -/

def scheme? (cs : List Char) : Option (List Char × List Char) :=
  let scheme := cs.takeWhile (· ≠ ':')
  match scheme, cs.dropWhile (· ≠ ':') with
  | first :: others, _ :: rest =>
    if first.isAlpha && others.all (fun c => c.isAlphanum || "+-.".toList.contains c) then
      some (scheme.map Char.toLower, rest)
    else none
  | _, _ => none

/-- Whether a scheme encrypts; none for schemes of which nothing can be requested. -/
def secure? (scheme : List Char) : Option Bool :=
  if scheme = "http".toList then some false
  else if scheme = "https".toList then some true
  else none

/-! ### Users, hosts and sockets -/

def cutUser (cs : List Char) : List Char × List Char :=
  let host := (cs.reverse.takeWhile (· ≠ '@')).reverse
  (cs.take (cs.length - host.length - 1), host)

def user? (cs : List Char) : Option (String × Option String) := do
  let name ← Utf8.decode? (Percent.decode (cs.takeWhile (· ≠ ':')))
  let rest := (cs.dropWhile (· ≠ ':')).drop 1
  let password := if rest.isEmpty then none else Utf8.decode? (Percent.decode rest)
  if name.isEmpty && password.isNone then none else pure (name, password)

/-- The text before and after the first colon that is not in brackets. -/
def cutSocket (bracket : Bool) : List Char → List Char × List Char
  | [] => ([], [])
  | c :: cs =>
    if c = ':' && !bracket then ([], c :: cs)
    else
      let bracket := c = '[' || (bracket && c ≠ ']')
      let (host, socket) := cutSocket bracket cs
      (c :: host, socket)

def socket? (default : Nat) : List Char → Option Nat
  | [] => some default
  | [_] => some default
  | _ :: cs =>
    match Host.numeral? 10 cs with
    | some socket => if socket < 65536 then some socket else none
    | none => none

/-! ### Paths -/

def isStepUp (segment : List Char) : Bool :=
  ["..", ".%2e", "%2e.", "%2e%2e"].contains (String.ofList (segment.map Char.toLower))

def isStepOnSpot (segment : List Char) : Bool :=
  [".", "%2e"].contains (String.ofList (segment.map Char.toLower))

/-- The letter of a drive, from which no step leads up. -/
def isDrive : List Char → Bool
  | [letter, mark] => letter.isAlpha && (mark = ':' || mark = '|')
  | _ => false

def walk (folder : List (List Char)) (segment : List Char) : List (List Char) :=
  if isStepUp segment then
    match folder.getLast? with
    | some last => if isDrive last then folder else folder.dropLast
    | none => folder
  else if isStepOnSpot segment then folder
  else folder ++ [segment]

def path (cs : List Char) : List Char :=
  let cs := match cs with
    | c :: rest => if isSlash c then rest else cs
    | [] => []
  let segments := (pieces isSlash cs).map (Percent.encode isEncodedInPath)
  let last := segments.getLast?.getD []
  let folder := segments.dropLast.foldl walk []
  let (folder, last) :=
    if isStepUp last || isStepOnSpot last then (walk folder last, []) else (folder, last)
  '/' :: (folder.flatMap (· ++ ['/']) ++ last)

def targetOf (cs : List Char) : List Char :=
  let cs := cs.takeWhile (· ≠ '#')
  let query := cs.dropWhile (· ≠ '?')
  path (cs.takeWhile (· ≠ '?')) ++
    match query with
    | [] => []
    | mark :: query => mark :: Percent.encode isEncodedInQuery query

/-! ### Writing -/

def defaultSocket (secure : Bool) : Nat := if secure then 443 else 80

def siteText (url : Url) : String :=
  let socket := if url.socket = defaultSocket url.secure then ""
    else ":" ++ digitText (digits url.socket)
  (if url.secure then "https" else "http") ++ "://" ++ String.ofList url.host.text ++ socket

def text (url : Url) : String := url.siteText ++ url.target

/-! ### Reading -/

def maxLength : Nat := 65534

/-- The address that a text stands for, if anything can be requested of it. -/
def parse? (text : String) : Option Url := do
  let (scheme, rest) ← scheme? (clean text.toList)
  let secure ← secure? scheme
  let rest := rest.dropWhile isSlash
  let ends (c : Char) : Bool := isSlash c || c = '?' || c = '#'
  let (user, site) := cutUser (rest.takeWhile fun c => !ends c)
  let (host, socket) := cutSocket false site
  let host ← Host.parse? host
  let socket ← socket? (defaultSocket secure) socket
  let rest := rest.dropWhile fun c => !ends c
  let url : Url :=
    { secure, user := user? user, host, socket, target := String.ofList (targetOf rest) }
  let fragment := Percent.encode isEncodedInFragment (rest.dropWhile (· ≠ '#'))
  if maxLength < url.text.length + fragment.length then none else pure url

example : (parse? "http://127.0.0.1:8989/a/../b c?q=é#x").map target =
    some "/b%20c?q=%C3%A9" := by decide +kernel
example : parse? "not a url" = none := by decide +kernel
example : parse? "http://" = none := by decide +kernel
example : parse? "http://127.0.0.1:99999/" = none := by decide +kernel

end Url

end Bookshop
