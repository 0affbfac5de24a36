/-!
# Outcomes

The twelve outcomes of validating a certificate, their names and the errors that the negative ones
stand for.
-/

namespace SignerTrust

/-- The outcome of a validation. -/
inductive Outcome
  | valid
  | corrupt
  | caNotSupported
  | notYetValid
  | expired
  | revoked
  | unknown
  | serverError
  | unauthorized
  | malformedRequest
  | sigRequired
  | cannotDownloadCrl
  deriving DecidableEq, Repr

namespace Outcome

/-- All outcomes, in the order of their numbers. -/
def all : List Outcome :=
  [valid, corrupt, caNotSupported, notYetValid, expired, revoked, unknown, serverError,
    unauthorized, malformedRequest, sigRequired, cannotDownloadCrl]

/-- The name used in reports. -/
def name : Outcome → String
  | valid => "VALID"
  | corrupt => "CORRUPT"
  | caNotSupported => "CA_NOT_SUPPORTED"
  | notYetValid => "NOT_YET_VALID"
  | expired => "EXPIRED"
  | revoked => "REVOKED"
  | unknown => "UNKNOWN"
  | serverError => "SERVER_ERROR"
  | unauthorized => "UNAUTHORIZED"
  | malformedRequest => "MALFORMED_REQUEST"
  | sigRequired => "SIG_REQUIRED"
  | cannotDownloadCrl => "CANNOT_DOWNLOAD_CRL"

/-- The outcome of a name. -/
def ofName? (name : String) : Option Outcome :=
  all.find? fun o => o.name = name

/-- Whether the certificate was found good. -/
def isValid (o : Outcome) : Bool :=
  o = valid

/-- Whether the outcome settles the status of the certificate. -/
def isDefinitive (o : Outcome) : Bool :=
  o = valid || o = revoked

/-- Why a certificate was not found good: a negative outcome. -/
inductive Failure
  | corrupt
  | caNotSupported
  | notYetValid
  | expired
  | revoked
  | unknown
  | serverError
  | unauthorized
  | malformedRequest
  | sigRequired
  | cannotDownloadCrl
  deriving DecidableEq, Repr

/-- The text of a failure. -/
def Failure.message : Failure → String
  | corrupt => "certificate is corrupt"
  | caNotSupported => "certification authority not supported"
  | notYetValid => "certificate is not yet valid"
  | expired => "certificate expired"
  | revoked => "certificate revoked"
  | unknown => "certificate revocation status unknown"
  | serverError => "revocation server error"
  | unauthorized => "not authorized to query the OCSP responder"
  | malformedRequest => "the OCSP responder rejected the request as malformed"
  | sigRequired => "the OCSP responder requires a signed request"
  | cannotDownloadCrl => "cannot download CRL"

/-- Succeeds on the good outcome and fails on the others. -/
def check : Outcome → Except Failure Unit
  | valid => .ok ()
  | corrupt => .error .corrupt
  | caNotSupported => .error .caNotSupported
  | notYetValid => .error .notYetValid
  | expired => .error .expired
  | revoked => .error .revoked
  | unknown => .error .unknown
  | serverError => .error .serverError
  | unauthorized => .error .unauthorized
  | malformedRequest => .error .malformedRequest
  | sigRequired => .error .sigRequired
  | cannotDownloadCrl => .error .cannotDownloadCrl

end Outcome

/-- The report of an outcome: positive, or negative with a reason. -/
inductive Report
  | ok
  | ko (reason : Outcome)
  deriving DecidableEq, Repr

/-- The report of an outcome. -/
def Outcome.report (o : Outcome) : Report :=
  if o = valid then .ok else .ko o

/-- The outcome that a report tells. -/
def Report.outcome : Report → Outcome
  | ok => .valid
  | ko reason => reason

end SignerTrust
