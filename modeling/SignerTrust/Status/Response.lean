import SignerTrust.Status.Request

/-!
# Status responses

A response is either the report of a failure or signed data: who answers, when, and the status of
some certificates.
-/

namespace SignerTrust

open Canonical.Reader (sequence sequenceOf explicit optionally)

/-- How a responder answered. -/
inductive ResponseStatus
  | successful
  | malformedRequest
  | internalError
  | tryLater
  | signatureRequired
  | unauthorized
  deriving DecidableEq, Repr

namespace ResponseStatus

/-- The answer of a number. -/
def ofNumber? : Int → Option ResponseStatus
  | 0 => some successful
  | 1 => some malformedRequest
  | 2 => some internalError
  | 3 => some tryLater
  | 5 => some signatureRequired
  | 6 => some unauthorized
  | _ => none

end ResponseStatus

/-- The status of a certificate. -/
inductive CertStatus
  | good
  | revoked
  | unknown
  deriving DecidableEq, Repr

/-- What a responder says of one certificate. -/
structure SingleResponse where
  certificate : CertId
  status : CertStatus
  deriving DecidableEq, Repr

/-- How a responder names itself: by its name, or by a digest of its key. -/
inductive ResponderId
  | byName (name : Canonical.Name)
  | byKey (digest : Bytes)
  deriving DecidableEq, Repr

/-- The signed part of a response. -/
structure ResponseData where
  responder : ResponderId
  responses : List SingleResponse
  extensions : Option (List Canonical.Extension)
  deriving DecidableEq, Repr

/-- A signed response, with the certificates sent along. -/
structure BasicResponse where
  data : ResponseData
  algorithm : Canonical.AlgorithmId
  signature : Canonical.Bits
  certificates : Option (List Canonical.Certificate)
  deriving DecidableEq, Repr

/-- A response: the kind and the bytes of its body are there when it is successful. -/
structure StatusResponse where
  status : ResponseStatus
  body : Option (Canonical.Arcs × Bytes)
  deriving DecidableEq, Repr

namespace StatusResponse

/-- Reads a number of an enumeration. -/
def enumerated : Canonical.Reader Int := do
  let content ← Canonical.Reader.primitive Der.Tag.enumerated
  match Canonical.twosComplement? content with
  | some n => pure n
  | none => failure

/-- Reads the kind and the bytes of a body. -/
def readBody : Canonical.Reader (Canonical.Arcs × Bytes) :=
  sequence do
    let kind ← Canonical.oid
    let bytes ← Canonical.octets
    return (kind, bytes)

/-- Reads a response. -/
def read : Canonical.Reader StatusResponse :=
  sequence do
    let n ← enumerated
    match ResponseStatus.ofNumber? n with
    | none => failure
    | some status =>
      let body ← optionally (explicit 0 readBody)
      return ⟨status, body⟩

/-- The response at the front of a byte string. -/
def decode? (bytes : Bytes) : Option StatusResponse :=
  read.decode? bytes

end StatusResponse

namespace SingleResponse

/-- Reads an empty content under a context tag. -/
def emptyMark (tag : Nat) : Canonical.Reader Unit := do
  let e ← Canonical.Reader.element .contextSpecific tag
  if e.content.isEmpty then pure () else failure

/-- Reads the reason of a revocation. -/
def readReason : Canonical.Reader Int := do
  let n ← StatusResponse.enumerated
  if (0 ≤ n ∧ n ≤ 6) ∨ (8 ≤ n ∧ n ≤ 10) then pure n else failure

/-- Reads when and why a certificate was revoked. -/
def readRevocation : Canonical.Reader Unit :=
  Canonical.Reader.constructed .contextSpecific 1 do
    let _ ← Canonical.longTime
    let _ ← optionally (explicit 0 readReason)

/-- Reads the status of a certificate, which the tag tells. -/
def readStatus : Canonical.Reader CertStatus :=
  Canonical.Reader.of fun bytes =>
    match Der.Element.read? bytes with
    | none => (none, bytes)
    | some (e, _) =>
      let r : Canonical.Reader CertStatus :=
        if e.isContext 0 then do let _ ← emptyMark 0; return .good
        else if e.isContext 1 then do let _ ← readRevocation; return .revoked
        else if e.isContext 2 then do let _ ← emptyMark 2; return .unknown
        else failure
      r.run bytes

/-- Reads what is said of one certificate. -/
def read : Canonical.Reader SingleResponse :=
  sequence do
    let certificate ← CertId.read
    let status ← readStatus
    let _ ← Canonical.longTime
    let _ ← optionally (explicit 0 Canonical.longTime)
    let _ ← optionally (explicit 1 (sequenceOf Canonical.extension))
    return ⟨certificate, status⟩

end SingleResponse

namespace ResponseData

/-- Reads how a responder names itself. -/
def readResponder : Canonical.Reader ResponderId :=
  Canonical.Reader.of fun bytes =>
    match Der.Element.read? bytes with
    | none => (none, bytes)
    | some (e, _) =>
      let r : Canonical.Reader ResponderId :=
        if e.isContext 1 then do return .byName (← explicit 1 Canonical.name)
        else if e.isContext 2 then do return .byKey (← explicit 2 Canonical.octets)
        else failure
      r.run bytes

/-- Reads the signed part of a response. -/
def read : Canonical.Reader ResponseData :=
  sequence do
    let _ ← optionally (explicit 0 Canonical.versionNumber)
    let responder ← readResponder
    let _ ← Canonical.longTime
    let responses ← sequenceOf SingleResponse.read
    let extensions ← optionally (explicit 1 (sequenceOf Canonical.extension))
    return ⟨responder, responses, extensions⟩

end ResponseData

namespace BasicResponse

/-- The kind of body that holds a signed response. -/
def kind : Canonical.Arcs := [1, 3, 6, 1, 5, 5, 7, 48, 1, 1]

/-- Reads a signed response. -/
def read : Canonical.Reader BasicResponse :=
  sequence do
    let data ← ResponseData.read
    let algorithm ← Canonical.algorithmId
    let signature ← Canonical.bits
    let certificates ← optionally (explicit 0 (sequenceOf Canonical.certificate))
    return ⟨data, algorithm, signature, certificates⟩

/-- The signed response at the front of a byte string. -/
def decode? (bytes : Bytes) : Option BasicResponse :=
  read.decode? bytes

/-- The bytes of the signed part, exactly as they were signed. -/
def signedPart? (bytes : Bytes) : Option Bytes := do
  let (outer, _) ← Der.Element.read? bytes
  let (signed, _) ← Der.Element.read? outer.content
  return signed.encoding

end BasicResponse

end SignerTrust
