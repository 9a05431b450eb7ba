import Bookshop.Checkout.Services
import Bookshop.Proofs.Text.Utf8

/-!
# What a fetch comes to

A fetch hands one request to the transport and judges what comes back. A failure of the transport is
a failure of the fetch of the same kind; of a response, the status is looked at first, and only the
body of a success is read as a document. A `Verdict` says what that comes to in terms of statuses
and bytes, for a transport and a type that may be anything.

The main statement is `fetch_verdicts`, for both kinds of requests and for the services of the shop.
-/

namespace Bookshop

variable {α τ : Type}

/-! ### Verdicts -/

namespace Response

def Succeeded (response : Response) : Prop := 200 ≤ response.status ∧ response.status ≤ 299

theorem isSuccess_iff {response : Response} : response.isSuccess = true ↔ response.Succeeded := by
  simp only [isSuccess, Succeeded, Bool.and_eq_true, decide_eq_true_eq]
  omega

/-- The message is the body if that is a text, and else says that nothing is known. -/
structure Says (response : Response) (message : String) : Prop where
  text : ∀ text, response.body = Utf8.encode text → message = text
  unknown : (∀ text, response.body ≠ Utf8.encode text) → message = "Unknown error"

theorem errorForStatus_of_succeeded {response : Response} (h : response.Succeeded) :
    response.errorForStatus = .ok response := by
  rw [errorForStatus, if_pos (isSuccess_iff.2 h)]

/-- A response that is no success is refused, whatever its body holds. -/
theorem errorForStatus_of_not_succeeded {response : Response} (h : ¬ response.Succeeded) :
    ∃ message, response.errorForStatus = .error (.http response.status message) ∧
      response.Says message := by
  have hsuccess : ¬ response.isSuccess = true := fun htrue => h (isSuccess_iff.1 htrue)
  cases hdecode : Utf8.decode response.body with
  | ok text =>
    have hbody := Utf8.decode_eq_ok_iff.1 hdecode
    refine ⟨text, ?_, ?_, ?_⟩
    · simp only [errorForStatus, hsuccess, Bool.false_eq_true, if_false, Response.text, hdecode]
    · intro other hother
      exact Utf8.encode_injective (hbody.trans hother)
    · intro hno
      exact absurd hbody.symm (hno text)
  | error fault =>
    refine ⟨unknownError, ?_, ?_, fun _ => rfl⟩
    · simp only [errorForStatus, hsuccess, Bool.false_eq_true, if_false, Response.text, hdecode]
    · intro text htext
      cases hdecode.symm.trans (Utf8.decode_eq_ok_iff.2 htext.symm)

end Response

/-- What the answer of a transport comes to for someone who asks for a value of the codec. -/
structure Verdict (codec : Codec α) (answer : Except TransportFailure Response)
    (result : Except FetchError α) : Prop where
  timedOut : answer = .error .timedOut → result = .error .timeout
  unusable : ∀ detail, answer = .error (.unusable detail) → result = .error (.invalidUrl detail)
  failed : ∀ detail, answer = .error (.failed detail) → result = .error (.request detail)
  refused : ∀ response, answer = .ok response → ¬ response.Succeeded →
    ∃ message, result = .error (.http response.status message) ∧ response.Says message
  read : ∀ response, answer = .ok response → response.Succeeded →
    ∀ value, result = .ok value ↔ codec.read response.body = .ok value
  unread : ∀ response cause, answer = .ok response → response.Succeeded →
    codec.read response.body = .error cause → result = .error (.parse (.undecodable cause))

namespace Verdict

variable {codec : Codec α} {answer : Except TransportFailure Response}
  {result : Except FetchError α}

/-- There is a value only if there was a success that could be read as it. -/
theorem eq_ok_iff (h : Verdict codec answer result) {value : α} :
    result = .ok value ↔ ∃ response, answer = .ok response ∧ response.Succeeded ∧
      codec.read response.body = .ok value := by
  constructor
  · intro hresult
    cases answer with
    | error failure =>
      cases failure with
      | timedOut => cases hresult.symm.trans (h.timedOut rfl)
      | unusable detail => cases hresult.symm.trans (h.unusable detail rfl)
      | failed detail => cases hresult.symm.trans (h.failed detail rfl)
    | ok response =>
      by_cases hsucceeded : response.Succeeded
      · exact ⟨response, rfl, hsucceeded, (h.read response rfl hsucceeded value).1 hresult⟩
      · obtain ⟨message, hrefused, -⟩ := h.refused response rfl hsucceeded
        cases hresult.symm.trans hrefused
  · rintro ⟨response, hanswer, hsucceeded, hread⟩
    exact (h.read response hanswer hsucceeded value).2 hread

/-- A failure has a status only if the service answered with it, and it was no success. -/
theorem status?_eq_some_iff (h : Verdict codec answer result) {error : FetchError}
    (hresult : result = .error error) {status : Nat} :
    error.status? = some status ↔
      ∃ response, answer = .ok response ∧ ¬ response.Succeeded ∧ response.status = status := by
  subst hresult
  cases answer with
  | error failure =>
    cases failure with
    | timedOut =>
      cases h.timedOut rfl
      simp [FetchError.status?]
    | unusable detail =>
      cases h.unusable detail rfl
      simp [FetchError.status?]
    | failed detail =>
      cases h.failed detail rfl
      simp [FetchError.status?]
  | ok response =>
    by_cases hsucceeded : response.Succeeded
    · have herror : error.status? = none := by
        cases hread : codec.read response.body with
        | ok value => cases (h.read response rfl hsucceeded value).2 hread
        | error cause =>
          cases h.unread response cause rfl hsucceeded hread
          rfl
      simp [herror, hsucceeded]
    · obtain ⟨message, hrefused, -⟩ := h.refused response rfl hsucceeded
      cases hrefused
      simp [FetchError.status?, hsucceeded]

end Verdict

/-! ### Calls -/

/-- The transport that also writes down the requests handed to it, in order. -/
def Transport.logged (transport : Transport τ) : Transport (τ × List Request) where
  send request s :=
    let (answer, state) := transport.send request s.1
    (answer, state, s.2 ++ [request])

/-- A call to a client: to ask for what is at a path, or to post to it what may have no document. -/
inductive ClientCall where
  | get (url : String)
  | post (url : String) (document : Except EncodeError Bytes)

namespace ClientCall

def on (client : Client) (transport : Transport τ) (codec : Codec α) (call : ClientCall)
    (state : τ) : Except FetchError α × τ :=
  match call with
  | get url => client.getJson transport codec url state
  | post url document => client.postJson transport codec url document state

/-- The request that a call stands for; none if what is to be posted has no document. -/
def request (client : Client) : ClientCall → Except EncodeError Request
  | get url => .ok ⟨.get, client.resolve url, client.headers, none⟩
  | post _ (.error cause) => .error cause
  | post url (.ok bytes) => .ok
    ⟨.post, client.resolve url,
      [("Content-Type", "application/json"), ("Accept", "application/json")] ++ client.headers,
      some bytes⟩

/-- The request of the call was answered with a success, of which the body reads as the value. -/
def Answered (client : Client) (transport : Transport τ) (codec : Codec α) (call : ClientCall)
    (state : τ) (value : α) : Prop :=
  ∃ request response, call.request client = .ok request ∧
    (transport.send request state).1 = .ok response ∧ response.Succeeded ∧
    codec.read response.body = .ok value

end ClientCall

namespace Client

/-- Of a response, first the status is judged and then the body read. -/
theorem read_response (codec : Codec α) (response : Response) :
    read codec ((Except.ok response).mapError TransportFailure.toFetchError) =
      match response.errorForStatus with
      | .error e => .error e
      | .ok response => response.json codec := rfl

/-- What a client makes of what comes back is a verdict. -/
theorem read_verdict (codec : Codec α) (answer : Except TransportFailure Response) :
    Verdict codec answer (read codec (answer.mapError TransportFailure.toFetchError)) where
  timedOut h := by rw [h]; rfl
  unusable detail h := by rw [h]; rfl
  failed detail h := by rw [h]; rfl
  refused response h hsucceeded := by
    obtain ⟨message, hrefused, hsays⟩ := Response.errorForStatus_of_not_succeeded hsucceeded
    refine ⟨message, ?_, hsays⟩
    rw [h, read_response, hrefused]
  read response h hsucceeded value := by
    rw [h, read_response, Response.errorForStatus_of_succeeded hsucceeded]
    simp only [Response.json]
    cases codec.read response.body <;> simp
  unread response cause h hsucceeded hread := by
    rw [h, read_response, Response.errorForStatus_of_succeeded hsucceeded]
    simp only [Response.json, hread]

theorem send_eq (client : Client) (transport : Transport τ) (request : Request) (state : τ) :
    let sent := { request with headers := request.headers ++ client.headers }
    client.send transport request state =
      ((transport.send sent state).1.mapError TransportFailure.toFetchError,
        (transport.send sent state).2) := by
  intro sent
  unfold send
  rcases transport.send sent state with ⟨answer, after⟩
  cases answer <;> rfl

end Client

namespace ClientCall

variable {client : Client} {call : ClientCall}

/-- A call that stands for a request sends it and judges the answer. -/
theorem on_of_request {request : Request} (h : call.request client = .ok request)
    (transport : Transport τ) (codec : Codec α) (state : τ) :
    call.on client transport codec state =
      (Client.read codec
          ((transport.send request state).1.mapError TransportFailure.toFetchError),
        (transport.send request state).2) := by
  cases call with
  | get url =>
    cases h
    simp only [on, Client.getJson, Client.get, Client.send_eq, List.nil_append]
  | post url document =>
    cases document with
    | error cause => cases h
    | ok bytes =>
      cases h
      simp only [on, Client.postJson, Client.post, Client.send_eq, Client.jsonType]

theorem on_of_no_request {cause : EncodeError} (h : call.request client = .error cause)
    (transport : Transport τ) (codec : Codec α) (state : τ) :
    call.on client transport codec state = (.error (.json (.unencodable cause)), state) := by
  cases call with
  | get url => cases h
  | post url document =>
    cases document with
    | error cause =>
      cases h
      rfl
    | ok bytes => cases h

/-- A call gives a value only if its request was answered with a success that could be read. -/
theorem on_eq_ok_iff (call : ClientCall) {transport : Transport τ} {codec : Codec α} {state : τ}
    {value : α} :
    (call.on client transport codec state).1 = .ok value ↔
      call.Answered client transport codec state value := by
  cases hrequest : call.request client with
  | error cause =>
    rw [on_of_no_request hrequest]
    constructor
    · nofun
    · rintro ⟨request, -, hother, -⟩
      rw [hrequest] at hother
      cases hother
  | ok request =>
    rw [on_of_request hrequest, (Client.read_verdict codec _).eq_ok_iff]
    simp only [Answered, hrequest, Except.ok.injEq, exists_and_left, exists_eq_left']

end ClientCall

/-- **What fetches come to.** Whatever the transport answers, a call hands it exactly one request, to
    the address of the path and with the headers of the client, unless what is to be posted has no
    document: then it hands over nothing. The result is the verdict on the answer: a failure of the
    transport by its kind; for a status outside 200 to 299 that status with the body for a message,
    if it is text, even if the body could be read; otherwise the value that the body reads as, or a
    failure to read it. Only refusals have a status. So the services that are reached through a
    client succeed exactly when they answer with a success that can be read. -/
theorem fetch_verdicts (client : Client) (transport : Transport τ) (state : τ) :
    (∀ {α : Type} (codec : Codec α) (call : ClientCall),
      let run := call.on client transport.logged codec (state, [])
      call.on client transport codec state = (run.1, run.2.1) ∧
      (∀ cause, call.request client = .error cause →
        run = (.error (.json (.unencodable cause)), state, [])) ∧
      ∀ request, call.request client = .ok request →
        let answer := (transport.send request state).1
        run.2 = ((transport.send request state).2, [request]) ∧ Verdict codec answer run.1 ∧
        ∀ error status, run.1 = .error error → (error.status? = some status ↔
          ∃ response, answer = .ok response ∧ ¬ response.Succeeded ∧ response.status = status)) ∧
    let services := Services.ofClient client transport
    (∀ order confirmation, (services.placeOrder order state).1 = .ok confirmation ↔
      (ClientCall.post "/api/orders" (.ok (Order.codec.write order))).Answered client transport
        Confirmation.codec state confirmation) ∧
    (∀ number record, (services.orderRecord number state).1 = .ok record ↔
      (ClientCall.get ("/api/orders/" ++ number.text)).Answered client transport
        OrderRecord.codec state record) ∧
    ∀ page listing, (services.listing page state).1 = .ok listing ↔
      (ClientCall.get ("/api/products?page=" ++ digitText (digits page))).Answered client transport
        Listing.codec state listing := by
  constructor
  · intro α codec call run
    cases hrequest : call.request client with
    | error cause =>
      have hrun : run = _ := ClientCall.on_of_no_request hrequest transport.logged codec (state, [])
      refine ⟨?_, ?_, nofun⟩
      · rw [hrun, ClientCall.on_of_no_request hrequest]
      · intro other hother
        cases hother
        exact hrun
    | ok request =>
      have hrun : run = _ := ClientCall.on_of_request hrequest transport.logged codec (state, [])
      refine ⟨?_, nofun, ?_⟩
      · rw [hrun, ClientCall.on_of_request hrequest]
        rfl
      · intro other hother answer
        cases hother
        have hverdict : Verdict codec answer run.1 := by
          rw [hrun]
          exact Client.read_verdict codec answer
        refine ⟨?_, hverdict, fun error status hresult => hverdict.status?_eq_some_iff hresult⟩
        rw [hrun]
        rfl
  · intro services
    refine ⟨?_, ?_, ?_⟩
    · intro order confirmation
      exact ClientCall.on_eq_ok_iff (.post ordersPath (.ok _))
    · intro number record
      exact ClientCall.on_eq_ok_iff (.get (orderPath number))
    · intro page listing
      exact ClientCall.on_eq_ok_iff (.get (listingPath page))

end Bookshop
