import Bookshop.Wire.Codec

/-!
# Responses

What comes back from a service: a status, headers and a body of raw bytes. A status from 200 to 299
is a success; any other one is a failure whose message is the body, if that is text.
-/

namespace Bookshop

/-! ### Failures -/

/-- What is wrong with the body of a message. -/
inductive BodyFault where
  | undecodable (cause : DecodeError)
  | notText (fault : Utf8.Fault)
  | unencodable (cause : EncodeError)
  | described (text : String)
deriving DecidableEq, Repr

/-- Why a service gives no answer of the type asked for. -/
inductive FetchError where
  | request (detail : String)
  | invalidUrl (detail : String)
  /-- The service answered with a status that is no success. -/
  | http (status : Nat) (message : String)
  | parse (fault : BodyFault)
  | timeout
  | json (fault : BodyFault)
deriving DecidableEq, Repr

def BodyFault.message : BodyFault → String
  | .undecodable cause => cause.message
  | .notText fault => "Invalid UTF-8: " ++ fault.message
  | .unencodable cause => cause.message
  | .described text => text

def FetchError.message : FetchError → String
  | .request detail => "Request failed: " ++ detail
  | .invalidUrl detail => "Invalid URL: " ++ detail
  | .http status message => "HTTP " ++ digitText (digits status) ++ ": " ++ message
  | .parse fault => "Failed to parse response: " ++ fault.message
  | .timeout => "Request timed out"
  | .json fault => "JSON error: " ++ fault.message

def FetchError.status? : FetchError → Option Nat
  | .http status _ => some status
  | _ => none

/-! ### Responses -/

structure Response where
  status : Nat
  headers : List (String × String)
  body : Bytes
deriving DecidableEq, Repr

namespace Response

def isSuccess (response : Response) : Bool := 200 ≤ response.status && response.status < 300

def text (response : Response) : Except FetchError String :=
  match Utf8.decode response.body with
  | .ok text => .ok text
  | .error fault => .error (.parse (.notText fault))

def json (response : Response) (codec : Codec α) : Except FetchError α :=
  match codec.read response.body with
  | .ok value => .ok value
  | .error e => .error (.parse (.undecodable e))

def unknownError : String := "Unknown error"

/-- The answer itself if its status is a success, else the failure that it stands for. -/
def errorForStatus (response : Response) : Except FetchError Response :=
  if response.isSuccess then .ok response
  else
    let message := match response.text with
      | .ok text => text
      | .error _ => unknownError
    .error (.http response.status message)

end Response

end Bookshop
