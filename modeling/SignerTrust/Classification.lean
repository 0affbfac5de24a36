import SignerTrust.Certificate.Endpoints
import SignerTrust.Ecosystem
import SignerTrust.Outcome
import SignerTrust.Text.Infix

/-!
# Classification

An authority marks its certificates by extensions under an arc of its own and states the holder type
by a policy.  A certificate belongs to the first known ecosystem whose marker it carries; the two
hierarchies of one authority share their marker and differ in whether the issuer's name says `TEST`.
-/

namespace SignerTrust

/-- How the certificates of an authority are recognised. -/
structure Profile where
  marker : String
  policyArc : String
  deriving DecidableEq, Repr

/-- The profile of an ecosystem; the unknown one has none. -/
def Ecosystem.profile? : Ecosystem → Option Profile
  | .bancoCentral => some ⟨"1.3.6.1.4.1.37947.3", "1.3.6.1.4.1.37947.2"⟩
  | .bancoCentralTest => some ⟨"1.3.6.1.4.1.37947.3", "1.3.6.1.4.1.37947.2"⟩
  | .securityData => some ⟨"1.3.6.1.4.1.37746.3", "1.3.6.1.4.1.37746.2"⟩
  | .securityDataLegacy => some ⟨"1.3.6.1.4.1.37746.1", "1.3.6.1.4.1.37746.2"⟩
  | .unknown => none

/-- The holder types of the policies under an authority's policy arc, in the order in which they
are tried; the sixth is that of professionals. -/
def Profile.holderOrder : List (Nat × HolderType) := [
  (1, .naturalPerson), (2, .legalPerson), (3, .legalRepresentative), (4, .companyMember),
  (5, .publicOfficial), (6, .naturalPerson), (7, .testSubject)]

/-- The policies of an authority with their holder types, in the order in which they are tried. -/
def Profile.holderPolicies (p : Profile) : List (String × HolderType) :=
  holderOrder.map fun (n, holder) => (p.policyArc ++ "." ++ toString n, holder)

/-- Why a certificate could not be classified. -/
inductive ClassifyError
  | notRecognized
  | unsupportedProfile (ecosystem : Ecosystem)
  | corrupt
  deriving DecidableEq, Repr

/-- The text of a classification error. -/
def ClassifyError.message : ClassifyError → String
  | notRecognized => "certificate is not issued by a supported certification authority"
  | unsupportedProfile e => "unsupported certificate profile for " ++ e.display
  | corrupt => "the certificate could not be decoded"

/-- The outcome of validating a certificate that could not be classified. -/
def Outcome.ofClassifyError : ClassifyError → Outcome
  | .corrupt => corrupt
  | _ => caNotSupported

namespace Certificate

/-- Whether the issuer's name says `TEST`. -/
def isTestIssuer (c : Certificate) : Bool :=
  hasInfix "TEST".toList c.issuer.text.toList

/-- Whether an extension lies under the marker of a profile. -/
def hasMarker (c : Certificate) (p : Profile) : Bool :=
  c.extensions.any fun e => e.name.dottedStartsWith p.marker

/-- Whether the certificate is marked as one of an ecosystem. -/
def looksLike (c : Certificate) (e : Ecosystem) : Bool :=
  match e.profile? with
  | none => false
  | some p =>
    c.hasMarker p && match e with
      | .bancoCentral => !c.isTestIssuer
      | .bancoCentralTest => c.isTestIssuer
      | _ => true

/-- The ecosystem and the holder type: the first known ecosystem that fits, and there the first
holder policy that the certificate has. -/
def classify (c : Certificate) : Except ClassifyError (Ecosystem × HolderType) :=
  match Ecosystem.known.find? c.looksLike with
  | none => .error .notRecognized
  | some e =>
    match e.profile? with
    | none => .error .notRecognized
    | some p =>
      match p.holderPolicies.find? fun (policy, _) => c.hasPolicy policy with
      | none => .error (.unsupportedProfile e)
      | some (_, holder) => .ok (e, holder)

end Certificate

/-- The ecosystem and the holder type of an encoded certificate. -/
def classifyEncoded (bytes : Bytes) : Except ClassifyError (Ecosystem × HolderType) :=
  match Certificate.decode? bytes with
  | none => .error .corrupt
  | some c => c.classify

end SignerTrust
