import Bookshop.Fetch.Redirect
import Bookshop.Text.Base64

/-!
# A network in miniature

For trying out clients without a network: one machine with two sockets, of which one answers from a
list of prepared replies and keeps note of what it was asked, and the other one never answers. No
other place can be reached. A request is checked and put into the form in which it is sent before
anything is known of its way, so an address that makes no sense fails in the same way everywhere.
-/

namespace Bookshop

/-- A prepared reply. -/
inductive Delivery where
  /-- An answer that announces so many bytes more than it has before the connection ends. -/
  | answer (response : Response) (missing : Nat)
  /-- The connection ends without an answer. -/
  | broken
deriving DecidableEq, Repr

/-- A request as it arrives. -/
structure Arrival where
  method : HttpMethod
  target : String
  headers : List (String × String)
  body : Option Bytes
deriving DecidableEq, Repr

structure Network where
  replies : List Delivery := []
  arrivals : List Arrival := []
deriving DecidableEq, Repr

/-- The one machine that can be reached. -/
structure Machine where
  /-- The number of its address. -/
  address : Nat
  names : List String
  /-- The socket that answers. -/
  answering : Nat
  /-- The socket that never answers. -/
  silent : Nat
deriving DecidableEq, Repr

/-- Does a host stand for the machine? -/
def Machine.isAt (machine : Machine) : Host → Bool
  | .short address => address = machine.address
  | .name text => machine.names.contains text
  | .long _ => false

namespace Delivery

def line (text : String) : Bytes := Utf8.encode text ++ [0x0D, 0x0A]

/-- The bytes of a reply. The length of the body comes first, and no other reply follows. -/
def wire : Delivery → Bytes
  | .broken => []
  | .answer response missing =>
    let status := "HTTP/1.1 " ++ digitText (digits response.status) ++ " "
    let length := "content-length: " ++ digitText (digits (response.body.length + missing))
    let headers := response.headers.map fun (name, value) => name ++ ": " ++ value
    ([status, length, "connection: close"] ++ headers ++ [""]).flatMap line ++ response.body

end Delivery

namespace Network

/-! ### Requests -/

/-- The header by which a user shows who they are. -/
def userHeaders : Option (String × Option String) → List (String × String)
  | none => []
  | some (name, password) =>
    let secret := Base64.encode (Utf8.encode (name ++ ":" ++ password.getD ""))
    [("authorization", "Basic " ++ String.ofList secret)]

/-- The headers of a request as they are sent: whoever asks for nothing in particular takes
    everything. -/
def sentHeaders (url : Url) (request : Request) : List (String × String) :=
  let headers := userHeaders url.user ++
    request.headers.map fun (name, value) => (Header.canonical name, Header.trim value)
  if headers.any (·.1 = "accept") then headers else headers ++ [("accept", "*/*")]

/-- The errand that a request stands for; none if its address or a header cannot be used. -/
def errandOf (request : Request) : Except TransportFailure Errand :=
  match Url.parse? request.url with
  | none => .error (.unusable "address")
  | some url =>
    if request.headers.all fun (name, value) => Header.isName name && Header.isValue value then
      .ok ⟨request.method, url, url.target, sentHeaders url request, request.body⟩
    else .error (.unusable "header")

/-! ### Answers -/

/-- The head of the next reply and what comes after it; without replies the connection ends. -/
def reply (network : Network) : Except TransportFailure (Head × Bytes) × Network :=
  let (wire, network) := match network.replies with
    | [] => (Delivery.broken.wire, network)
    | delivery :: replies => (delivery.wire, { network with replies })
  match Head.readFinal? wire.length wire with
  | some (head, rest) =>
    if head.framing?.isSome then (.ok (head, rest), network)
    else (.error (.failed "unclear length"), network)
  | none => (.error (.failed "connection closed"), network)

def exchange (machine : Machine) (errand : Errand) (network : Network) :
    Except TransportFailure (Head × Bytes) × Network :=
  if !machine.isAt errand.url.host then (.error (.failed "connection refused"), network)
  else if errand.url.socket = machine.silent then (.error .timedOut, network)
  else if errand.url.socket = machine.answering && !errand.url.secure then
    let arrival : Arrival := ⟨errand.method, errand.target, errand.headers, errand.body⟩
    reply { network with arrivals := network.arrivals ++ [arrival] }
  else (.error (.failed "connection refused"), network)

def finish (head : Head) (rest : Bytes) : Except TransportFailure Response :=
  match head.framing?.bind fun framing => framing.body? rest with
  | some body => .ok ⟨head.status, Header.received head.headers, body⟩
  | none => .error (.failed "answer incomplete")

/-- Run an errand, and follow the answers that send it on, so many of them at most. An answer that
    names no address to which a request could be made stands as it is. -/
def run (machine : Machine) (hops : Nat) (errand : Errand) (source : Option Url)
    (network : Network) : Except TransportFailure Response × Network :=
  match exchange machine (errand.sentFrom source) network with
  | (.error failure, network) => (.error failure, network)
  | (.ok (head, rest), network) =>
    match errand.repeated? head.status, errand.location? head with
    | some next, some reference =>
      match hops, Url.parse? (String.ofList reference.text) with
      | 0, url =>
        if url.isNone && reference.isOfWeb then (.error (.unusable "address"), network)
        else (.error (.failed "too many redirects"), network)
      | _ + 1, none => (.error (.unusable "address"), network)
      | hops + 1, some url =>
        if reference.authority.isNone then (.error (.failed "no host"), network)
        else
          let next := { next with url, target := Errand.targetOf reference }
          run machine hops next (some errand.url) network
    | _, _ => (finish head rest, network)

def send (machine : Machine) (request : Request) (network : Network) :
    Except TransportFailure Response × Network :=
  match errandOf request with
  | .error failure => (.error failure, network)
  | .ok errand => run machine Errand.maxHops errand none network

def transport (machine : Machine) : Transport Network := ⟨send machine⟩

end Network

end Bookshop
