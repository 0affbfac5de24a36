import SignerTrust.Certificate.Endpoints
import SignerTrust.Outcome
import SignerTrust.Signature
import SignerTrust.Status.Response

/-!
# What a status response tells

A successful response counts only if it is signed by the issuer, or by a responder whom the issuer
certified for signing responses; if it repeats the nonce, where one was sent; and it tells the
status that its first entry for the certificate gives.  All else that is wrong with it is an error
of the server.
-/

namespace SignerTrust

/-- What is asked of a response: the certificate, its issuer's key, and the nonce that was sent. -/
structure Expectation where
  certificate : CertId
  issuerKey : Bytes
  nonce : Option Bytes
  deriving DecidableEq, Repr

/-- Why a response does not count. -/
inductive ResponseError
  | malformed
  | unsupportedKind
  | untrustedResponder
  | unauthorizedResponder
  | badSignature (cause : SignatureError)
  | missingNonce
  | nonceMismatch
  | library
  deriving DecidableEq, Repr

namespace Canonical.Certificate

/-- Whether the certificate is the one by which a responder names itself. -/
def isOf (c : Canonical.Certificate) : ResponderId → Bool
  | .byName name => name = c.subject
  | .byKey digest => digest = Digest.sha1.hash c.publicKey.key.data

/-- Whether the library finds the certificate signed with a key; it may fail to read either. -/
def issuedBy? [CryptoLibrary] (c : Canonical.Certificate) (key : Bytes) : Option Bool := do
  let certificate ← CryptoLibrary.readCertificate? c.encode
  let key ← CryptoLibrary.readPublicKey? key
  CryptoLibrary.isSignedBy? certificate key

/-- Whether the certificate is meant for signing responses. -/
def isStatusSigner (c : Canonical.Certificate) : Bool :=
  match SignerTrust.Certificate.decode? c.encode with
  | some parsed => parsed.signsStatus
  | none => false

end Canonical.Certificate

namespace BasicResponse

/-- The certificate sent along that names the responder. -/
def responder? (r : BasicResponse) : Option Canonical.Certificate :=
  (r.certificates.getD []).find? fun c => c.isOf r.data.responder

/-- The key that must have signed the response. -/
def signerKey [CryptoLibrary] (r : BasicResponse) (issuerKey : Bytes) :
    Except ResponseError Bytes :=
  match r.responder? with
  | none => .ok issuerKey
  | some c =>
    let key := c.publicKey.encode
    if key = issuerKey then .ok key
    else match c.issuedBy? issuerKey with
      | none => .error .library
      | some false => .error .untrustedResponder
      | some true => if c.isStatusSigner then .ok key else .error .unauthorizedResponder

/-- Checks that the response repeats the nonce. -/
def checkNonce (r : BasicResponse) : Option Bytes → Except ResponseError Unit
  | none => .ok ()
  | some nonce =>
    match (r.data.extensions.getD []).find? fun e => e.name = StatusRequest.nonceName with
    | none => .error .missingNonce
    | some e => if e.value = nonce then .ok () else .error .nonceMismatch

/-- The status of a certificate: that of its first entry, or unknown. -/
def statusOf (r : BasicResponse) (id : CertId) : Outcome :=
  match r.data.responses.find? fun s => s.certificate.sameCertificate id with
  | none => .unknown
  | some s =>
    match s.status with
    | .good => .valid
    | .revoked => .revoked
    | .unknown => .unknown

end BasicResponse

namespace StatusResponse

/-- The outcome of a successful response, if it counts. -/
def verified [CryptoLibrary] (body : Option (Canonical.Arcs × Bytes)) (x : Expectation) :
    Except ResponseError Outcome := do
  match body with
  | none => throw .malformed
  | some (kind, bytes) =>
    if kind ≠ BasicResponse.kind then throw .unsupportedKind
    match BasicResponse.decode? bytes, BasicResponse.signedPart? bytes with
    | some r, some signed =>
      let key ← r.signerKey x.issuerKey
      let algorithm := Canonical.dotted r.algorithm.algorithm
      match Signature.verify algorithm r.signature.data signed key with
      | .error e => throw (.badSignature e)
      | .ok () =>
        r.checkNonce x.nonce
        return r.statusOf x.certificate
    | _, _ => throw .malformed

/-- The outcome that an encoded response tells. -/
def interpret [CryptoLibrary] (bytes : Bytes) (x : Expectation) : Outcome :=
  match decode? bytes with
  | none => .serverError
  | some r =>
    match r.status with
    | .successful =>
      match verified r.body x with
      | .ok outcome => outcome
      | .error _ => .serverError
    | .malformedRequest => .malformedRequest
    | .internalError => .serverError
    | .tryLater => .serverError
    | .signatureRequired => .sigRequired
    | .unauthorized => .unauthorized

end StatusResponse

/-- What is asked of a response about an encoded certificate, if it and its issuer's can be read. -/
def Expectation.ofEncoded? (certificate issuer : Bytes) (nonce : Option Bytes) :
    Option Expectation := do
  let id ← CertId.ofEncoded? certificate issuer
  let issuer ← Certificate.decode? issuer
  return ⟨id, issuer.publicKey.encoding, nonce⟩

/-- The outcome that an encoded response tells of an encoded certificate. -/
def verifyResponse [CryptoLibrary] (response certificate issuer : Bytes) (nonce : Option Bytes) :
    Outcome :=
  match Expectation.ofEncoded? certificate issuer nonce with
  | none => .corrupt
  | some x => StatusResponse.interpret response x

end SignerTrust
