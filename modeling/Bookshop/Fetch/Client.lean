import Bookshop.Fetch.Response

/-!
# Fetching from services

A client turns a path into a request to its service, hands it to a transport exactly once, and
reads the answer. What the transport is made of does not matter here: it is a function of its
state, which may answer or fail in any way.
-/

namespace Bookshop

/-! ### Transport -/

inductive HttpMethod where
  | get
  | post
deriving DecidableEq, Repr

structure Request where
  method : HttpMethod
  url : String
  headers : List (String × String)
  body : Option Bytes
deriving DecidableEq, Repr

inductive TransportFailure where
  | timedOut
  /-- The address or a header of the request cannot be used. -/
  | unusable (detail : String)
  | failed (detail : String)
deriving DecidableEq, Repr

/-- A means of sending requests, with states of type `τ`. -/
structure Transport (τ : Type) where
  send : Request → τ → Except TransportFailure Response × τ

def TransportFailure.toFetchError : TransportFailure → FetchError
  | .timedOut => .timeout
  | .unusable detail => .invalidUrl detail
  | .failed detail => .request detail

/-! ### Clients -/

/-- The settings of a client: the address of its service, and headers for every request. -/
structure Client where
  baseUrl : Option String := none
  headers : List (String × String) := []
deriving DecidableEq, Repr

namespace Client

/-- The client with a default header; a later value of the same name replaces an earlier one. -/
def withHeader (client : Client) (name value : String) : Client :=
  { client with headers := client.headers.filter (·.1 ≠ name) ++ [(name, value)] }

def beginsWith (start text : String) : Bool := start.toList.isPrefixOf text.toList

def isAbsolute (url : String) : Bool := beginsWith "http://" url || beginsWith "https://" url

def trimSlashes (text : String) : String :=
  String.ofList (text.toList.reverse.dropWhile (· = '/')).reverse

/-- The address that a path stands for: the path after the base address, unless it is absolute. -/
def resolve (client : Client) (url : String) : String :=
  match client.baseUrl with
  | some base => if isAbsolute url then url else trimSlashes base ++ url
  | none => url

def jsonType : String := "application/json"

variable {τ : Type}

def send (client : Client) (transport : Transport τ) (request : Request) (state : τ) :
    Except FetchError Response × τ :=
  match transport.send { request with headers := request.headers ++ client.headers } state with
  | (.ok response, state) => (.ok response, state)
  | (.error failure, state) => (.error failure.toFetchError, state)

def get (client : Client) (transport : Transport τ) (url : String) (state : τ) :
    Except FetchError Response × τ :=
  client.send transport ⟨.get, client.resolve url, [], none⟩ state

/-- Post a document to a path; what has no document is not sent. -/
def post (client : Client) (transport : Transport τ) (url : String)
    (document : Except EncodeError Bytes) (state : τ) : Except FetchError Response × τ :=
  match document with
  | .error e => (.error (.json (.unencodable e)), state)
  | .ok bytes =>
    client.send transport
      ⟨.post, client.resolve url, [("Content-Type", jsonType), ("Accept", jsonType)], some bytes⟩
      state

def read (codec : Codec α) (answer : Except FetchError Response) : Except FetchError α :=
  match answer with
  | .error e => .error e
  | .ok response =>
    match response.errorForStatus with
    | .error e => .error e
    | .ok response => response.json codec

def getJson (client : Client) (transport : Transport τ) (codec : Codec α) (url : String)
    (state : τ) : Except FetchError α × τ :=
  let (answer, state) := client.get transport url state
  (read codec answer, state)

def postJson (client : Client) (transport : Transport τ) (codec : Codec α) (url : String)
    (document : Except EncodeError Bytes) (state : τ) : Except FetchError α × τ :=
  let (answer, state) := client.post transport url document state
  (read codec answer, state)

end Client

end Bookshop
