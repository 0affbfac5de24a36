import SignerTrust.Revocation.Walk
import SignerTrust.Status.Check
import SignerTrust.TrustAnchor.Registry

/-!
# Validation

A certificate is classified and then checked for revocation: by its status responder, by revocation
lists, or by one after the other.  The verdict tells what was found and by which way.
-/

namespace SignerTrust

/-- The way by which a verdict was found. -/
inductive CheckMethod
  | responder
  | lists
  deriving DecidableEq, Repr

/-- The name of a way. -/
def CheckMethod.name : CheckMethod → String
  | responder => "ocsp"
  | lists => "crl"

/-- What was found about a certificate; without a way, nothing was checked. -/
structure Verdict where
  ecosystem : Ecosystem
  holderType : HolderType
  outcome : Outcome
  method : Option CheckMethod
  deriving DecidableEq, Repr

/-- The verdict on a certificate that is not checked. -/
def Verdict.unchecked (ecosystem : Ecosystem) (outcome : Outcome) : Verdict :=
  ⟨ecosystem, .unknown, outcome, none⟩

/-- What a validation works with.  The clients that do not check servers are there or not. -/
structure Validator where
  registry : Registry
  settings : Settings
  hasUncheckedHttp : Bool := false
  hasUncheckedDirectory : Bool := false

namespace Validator

/-- The validator that settings ask for.  It has the clients that do not check servers if any
ecosystem is listed for them. -/
def ofSettings (registry : Registry) (settings : Settings) : Validator :=
  let listed := !settings.network.insecureEcosystems.isEmpty
  ⟨registry, settings, listed, listed⟩

/-- The validator that settings ask for, with the accredited authorities. -/
def accredited (settings : Settings) : Except TrustAnchorError Validator :=
  Registry.accredited.map fun registry => ofSettings registry settings

/-- Whether the servers of an ecosystem are reached without checking their certificates. -/
def isInsecure (v : Validator) (e : Ecosystem) : Bool :=
  v.settings.network.insecureEcosystems.contains e

/-- The clients for the servers of an ecosystem. -/
def route (v : Validator) (e : Ecosystem) : Route where
  http := if v.hasUncheckedHttp && v.isInsecure e then .unchecked else .checked
  directory := if v.hasUncheckedDirectory && v.isInsecure e then .unchecked else .checked

/-- The outcome when a responder gave none and lists are not to be asked. -/
def failureOutcome : ResponderError → Outcome
  | .noResponder => .unknown
  | _ => .serverError

variable [CryptoLibrary]

/-- Checks the revocation lists of a certificate. -/
def checkLists (v : Validator) (route : Route) (certificate : Bytes) (sub : TrustAnchor) :
    Inquiry Outcome :=
  let key := if v.settings.lists.verifySignature then some sub.publicKey else none
  RevocationList.check v.settings route certificate key v.settings.lists.overridePoints

/-- What the lists say when a responder gave no definite answer; a walk that visited nothing says
less than any answer. -/
def settle (answer : Option Outcome) (lists : Outcome) : Outcome × CheckMethod :=
  match lists, answer with
  | .unknown, some o => (o, .responder)
  | o, _ => (o, .lists)

/-- Checks a certificate for revocation. -/
def checkRevocation (v : Validator) (random : Bytes) (certificate : Bytes) (e : Ecosystem)
    (sub : TrustAnchor) : Inquiry (Outcome × CheckMethod) := do
  let route := v.route e
  if !v.settings.responders.preferred then
    return (← v.checkLists route certificate sub, .lists)
  else
    match ← StatusRequest.check v.settings route.http random certificate sub.encoding with
    | .ok o =>
      if o.isDefinitive || !v.settings.responders.listsAsFallback then return (o, .responder)
      else return settle (some o) (← v.checkLists route certificate sub)
    | .error e =>
      if !v.settings.responders.listsAsFallback then return (failureOutcome e, .responder)
      else return settle none (← v.checkLists route certificate sub)

/-- The ecosystem that a failed classification still tells. -/
def ecosystemOf : ClassifyError → Ecosystem
  | .unsupportedProfile e => e
  | _ => .unknown

/-- Validates an encoded certificate. -/
def validate (v : Validator) (random : Bytes) (certificate : Bytes) : Inquiry Verdict :=
  match classifyEncoded certificate with
  | .error e => return .unchecked (ecosystemOf e) (Outcome.ofClassifyError e)
  | .ok (ecosystem, holderType) =>
    match v.registry.anchor ecosystem .sub with
    | .error _ => return .unchecked ecosystem .caNotSupported
    | .ok sub => do
      let (outcome, method) ← v.checkRevocation random certificate ecosystem sub
      return ⟨ecosystem, holderType, outcome, some method⟩

end Validator

end SignerTrust
