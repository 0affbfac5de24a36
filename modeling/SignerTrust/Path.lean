import SignerTrust.Path.Conformance
import SignerTrust.Path.NameMatch
import SignerTrust.Signature.Reference
import SignerTrust.TrustAnchor.Registry

/-!
# Certification paths

A certificate is accepted for an ecosystem if a chain leads from it to a root of the registry; the
ecosystem's issuing authority may stand between.  The chain must conform, its signatures must hold,
all its certificates must be valid at the instant asked for, and its names must keep the limits set
above them, in this order.
-/

namespace SignerTrust

namespace Path

/-- Why a path was not accepted. -/
inductive PathError
  | rejected (fault : Fault)
  | unreadableCertificate
  | anchor (error : TrustAnchorError)
  | unusable
  deriving DecidableEq, Repr

/-- The text of a path error; that of an unusable certificate or key is not fixed. -/
def PathError.message? : PathError → Option String
  | rejected fault => some ("certification path rejected: " ++ fault.message)
  | unreadableCertificate => some "the certificate could not be decoded"
  | anchor error => error.message?
  | unusable => none

namespace Chain

/-- Checks signatures and validity periods from the top down.  A certificate is signed by the one
above it; the topmost is trusted without a signature. -/
def checkSignatures (instant : Int) (chain : List Member) : Except Fault Unit :=
  go none chain.reverse
where
  go : Option Member → List Member → Except Fault Unit
    | _, [] => .ok ()
    | issuer, m :: below => do
      if issuer.all fun i => m.link.isSignedBy i.link.publicKey then
        m.link.checkPeriod instant
        go (some m) below
      else throw .signatureFailure

/-- Checks a complete chain. -/
def check (instant : Int) (chain : List Member) : Except PathError Unit := do
  let orReject {α : Type} : Except Fault α → Except PathError α := Except.mapError .rejected
  orReject (checkConformance chain)
  orReject (checkSignatures instant chain)
  match checkNames? chain with
  | none => throw .unusable
  | some answer => orReject answer

end Chain

/-- Verifies that a chain leads from a certificate to one of the roots at an instant; `middle` may
stand between. -/
def verify (roots : List Bytes) (middle leaf : Bytes) (instant : Int) : Except PathError Unit := do
  let some leaf := Link.decode? leaf | throw .unreadableCertificate
  let some middle := Link.decode? middle | throw .unusable
  let some roots := roots.mapM Link.decode? | throw .unusable
  let some leaf := Member.ofLink? leaf | throw (.rejected .noLocalIssuer)
  let pool := (Member.ofLink? middle).toList
  match Chain.search (roots.filterMap Member.ofLink?) pool instant leaf with
  | .complete chain => Chain.check instant chain
  | .incomplete chain given => throw (.rejected (Chain.fault chain given))
  | .unusableKey => throw .unusable

end Path

open SignerTrust.Path in
/-- Verifies that a certificate of an ecosystem leads to a root of the registry at an instant. -/
def Registry.verifyPath (g : Registry) (leaf : Bytes) (e : Ecosystem) (instant : Int) :
    Except PathError Unit :=
  match g.anchor e .sub with
  | .error error => .error (.anchor error)
  | .ok sub =>
    verify ((distinct (g.ofRole .root)).map (·.encoding)) sub.encoding leaf instant

end SignerTrust
