import Bookshop.Fetch.Client
import Bookshop.Fetch.Message
import Bookshop.Fetch.Reference
import Bookshop.Fetch.Url

/-!
# Redirects

A service may answer that what is asked for is to be found at another address. The request is then
made anew there, in the same way or, if the answer was not to be repeated elsewhere, as a plain
request for what is there. The new request says which address it comes from, and whatever was only
meant for one host is not shown to another one.
-/

namespace Bookshop

structure Errand where
  method : HttpMethod
  url : Url
  target : String
  headers : List (String × String)
  body : Option Bytes
deriving DecidableEq, Repr

def Reference.isOfWeb (reference : Reference) : Bool :=
  reference.scheme.any fun scheme => (Url.secure? (scheme.map Char.toLower)).isSome

namespace Errand

/-! ### Headers -/

/-- The headers that speak of the body of a request. -/
def bodyHeaders : List String :=
  ["content-type", "content-length", "content-encoding", "transfer-encoding"]

/-- The headers that are meant for one host only. -/
def privateHeaders : List String :=
  ["authorization", "cookie", "cookie2", "proxy-authorization", "www-authenticate"]

def without (names : List String) (errand : Errand) : Errand :=
  { errand with headers := errand.headers.filter fun (name, _) => !names.contains name }

/-- The header that says which address a request comes from. -/
def originHeader : String := "referer"

/-- The errand as it is sent by an answer from an address, if it comes from one. An encrypted
    address is not told to a service that is asked in the open. -/
def sentFrom (errand : Errand) : Option Url → Errand
  | none => errand
  | some source =>
    let isSame := source.host = errand.url.host ∧ source.socket = errand.url.socket
    let errand := if isSame then errand else errand.without privateHeaders
    if source.secure ∧ ¬ errand.url.secure then errand
    else
      let others := errand.without [originHeader]
      { others with headers := others.headers ++ [(originHeader, source.text)] }

/-! ### Answers that send on -/

def plain (errand : Errand) : Errand :=
  { errand.without bodyHeaders with method := .get, body := none }

/-- The errand that is to be made elsewhere after an answer with a status, if it is one that sends
    on. -/
def repeated? (errand : Errand) (status : Nat) : Option Errand :=
  match status with
  | 301 | 302 => some (if errand.method = .post then errand.plain else errand)
  | 303 => some errand.plain
  | 307 | 308 => some errand
  | _ => none

def base? (errand : Errand) : Option Reference :=
  Reference.parse? (errand.url.siteText ++ errand.target).toList

def location? (errand : Errand) (head : Head) : Option Reference := do
  let value ← (Header.values "location" head.headers).head?
  let base ← errand.base?
  let reference ← Reference.parse? (Header.chars value)
  let next := base.resolve reference
  if next.isRequestable && next.text.length ≤ Url.maxLength then pure next else none

def targetOf (reference : Reference) : String :=
  String.ofList
    ((if reference.path.isEmpty then ['/'] else reference.path) ++
      match reference.query with
      | some query => '?' :: query
      | none => [])

def maxHops : Nat := 10

end Errand

end Bookshop
