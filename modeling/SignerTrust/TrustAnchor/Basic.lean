import SignerTrust.Certificate.Basic
import SignerTrust.Digest
import SignerTrust.Ecosystem

/-!
# Trust anchors

An anchor is the certificate of an authority that is trusted for an ecosystem: the root of its
hierarchy, or the authority below it that issues to holders.
-/

namespace SignerTrust

/-- The place of an anchor in its hierarchy. -/
inductive AnchorRole
  | root
  | sub
  deriving DecidableEq, Repr

/-- The name of a role. -/
def AnchorRole.name : AnchorRole → String
  | root => "Root"
  | sub => "Sub"

/-- A certificate trusted for an ecosystem, with the fields that checks need. -/
structure TrustAnchor where
  ecosystem : Ecosystem
  role : AnchorRole
  encoding : Bytes
  subject : String
  serial : String
  publicKey : Bytes
  notBefore : Int
  notAfter : Int
  deriving DecidableEq, Repr

/-- Why no anchor or no registry could be had. -/
inductive TrustAnchorError
  | unknownEcosystem
  | unreadableCertificate
  | notOneCertificate (ecosystem : Ecosystem) (role : AnchorRole)
  | incompleteTable (ecosystem : Ecosystem) (role : AnchorRole)
  deriving DecidableEq, Repr

/-- The text of an anchor error; that of an unreadable certificate is not fixed. -/
def TrustAnchorError.message? : TrustAnchorError → Option String
  | unknownEcosystem => some "no trust anchors exist for an unknown ecosystem"
  | unreadableCertificate => none
  | notOneCertificate e r =>
    some ("invalid trust anchor certificate: expected exactly one certificate for "
      ++ e.display ++ " " ++ r.name)
  | incompleteTable e r =>
    some ("trust anchor table needs exactly one " ++ r.name ++ " anchor for " ++ e.display)

namespace TrustAnchor

/-- Bytes in hexadecimal, parted by colons. -/
def colonHex (bytes : Bytes) : String :=
  ":".intercalate (bytes.map fun b => String.ofList (Bytes.hexPair b))

/-- The anchor that an encoded certificate makes. -/
def ofEncoded (ecosystem : Ecosystem) (role : AnchorRole) (bytes : Bytes) :
    Except TrustAnchorError TrustAnchor :=
  match Certificate.decode? bytes with
  | none => .error .unreadableCertificate
  | some c => .ok {
      ecosystem, role
      encoding := bytes
      subject := c.subject.text
      serial := colonHex c.serial
      publicKey := c.publicKey.encoding
      notBefore := c.notBefore.epoch
      notAfter := c.notAfter.epoch }

/-- The digest by which the anchor is known. -/
def fingerprint (a : TrustAnchor) : Bytes :=
  Digest.sha256.hash a.encoding

end TrustAnchor

end SignerTrust
