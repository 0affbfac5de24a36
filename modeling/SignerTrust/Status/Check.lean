import SignerTrust.Classification
import SignerTrust.Network.Inquiry
import SignerTrust.Settings.Basic
import SignerTrust.Status.Interpretation

/-!
# Asking status responders

The responder that the certificate names is asked, or the one configured for its ecosystem.  A
failure of the connection is an error and never an outcome.
-/

namespace SignerTrust

/-- Why a responder gave no outcome. -/
inductive ResponderError
  | timeout (url : String)
  | noResponder
  | status (url : String) (code : Nat)
  | transport (url : String) (cause : HttpError)
  deriving DecidableEq, Repr

namespace ResponderError

/-- The text of an error; that of a request that cannot be made is not fixed. -/
def message? : ResponderError → Option String
  | timeout url => some ("OCSP request to \"" ++ url ++ "\" timed out")
  | noResponder => some "no OCSP responder for this certificate"
  | .status url code =>
    some ("OCSP responder \"" ++ url ++ "\" answered with HTTP status " ++ toString code)
  | transport url cause =>
    cause.message?.map fun text => "OCSP request to \"" ++ url ++ "\" failed: " ++ text

/-- Whether the responder did not answer in time. -/
def isTimeout : ResponderError → Bool
  | timeout _ => true
  | _ => false

/-- The error for a failure of the connection. -/
def ofHttp (url : String) (e : HttpError) : ResponderError :=
  if e.isTimeout then timeout url else transport url e

end ResponderError

namespace StatusRequest

variable [CryptoLibrary]

/-- The fields of a request's head. -/
def headers : List (String × String) :=
  [("content-type", "application/ocsp-request"), ("accept", "application/ocsp-response")]

/-- The request to a responder. -/
def post (r : StatusRequest) (uri : Uri) : HttpRequest :=
  ⟨.post, uri, headers, r.encode⟩

/-- What a reply to a request brings, unless reading its body breaks off. -/
def ofReply (settings : Settings) (url : String) (x : Expectation) :
    Except HttpError HttpReply → Option (Except ResponderError Outcome)
  | .error e => some (.error (.ofHttp url e))
  | .ok reply =>
    if !reply.isSuccess then some (.error (.status url reply.status))
    else (reply.body.read settings.network.maxResponseSize url).map fun
      | .error e => .error (.ofHttp url e)
      | .ok body => .ok (StatusResponse.interpret body x)

/-- Asks the responder at `url` about an encoded certificate.  The nonce, if one is to be sent, is
made of the random bytes. -/
def askResponder (settings : Settings) (client : ServerTrust) (random : Bytes)
    (certificate issuer : Bytes) (url : String) : Inquiry (Except ResponderError Outcome) :=
  let nonce := if settings.responders.sendNonce then some random else none
  match Expectation.ofEncoded? certificate issuer (nonce.map nonceValue) with
  | none => return .ok .corrupt
  | some x =>
    match Uri.parse? url with
    | none => return .error (.ofHttp url .invalidRequest)
    | some uri => do
      let reply ← Inquiry.fetch client ((StatusRequest.make x.certificate nonce).post uri)
      Inquiry.ofOption (ofReply settings url x reply)

/-- The responder to ask about a certificate. -/
def responder? (settings : Settings) (c : Certificate) : Option String :=
  match c.statusResponders with
  | url :: _ => some url
  | [] =>
    match c.classify with
    | .ok (ecosystem, _) => settings.responders.fallback.get ecosystem
    | .error _ => none

/-- Asks for the status of an encoded certificate. -/
def check (settings : Settings) (client : ServerTrust) (random : Bytes)
    (certificate issuer : Bytes) : Inquiry (Except ResponderError Outcome) :=
  match Certificate.decode? certificate with
  | none => return .ok .corrupt
  | some c =>
    match responder? settings c with
    | none => return .error .noResponder
    | some url => askResponder settings client random certificate issuer url

end StatusRequest

end SignerTrust
