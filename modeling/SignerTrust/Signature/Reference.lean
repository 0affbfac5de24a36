import SignerTrust.Path.Link
import SignerTrust.Signature
import SignerTrust.Signature.Ecdsa
import SignerTrust.Signature.Rsa

/-!
# A library by its arithmetic

A cryptographic library whose keys, curves and digests are those of this development.  It stands in
where signatures are to be computed, and makes no claim to read all that others read: keys on
curves lie on one of nine named curves, never on one that is spelled out; certificates are checked
by the older RSA signatures and those by points, not by salted or Edwards ones.  What it does not
know it fails at.
-/

namespace SignerTrust

/-- A public key that was read; of the kinds that it can check no signature with, the library keeps
only that they were read. -/
inductive OpenKey
  | rsa (key : RsaKey)
  | curve (key : EcKey)
  | other (kind : Path.KeyKind)
  deriving DecidableEq, Repr

/-- Reads a public key of any kind. -/
def OpenKey.read? (bytes : Bytes) : Option OpenKey := do
  match ← Path.KeyKind.ofKey? bytes with
  | .rsa => return .rsa (← PublicKey.rsa? bytes)
  | .curve => return .curve (← PublicKey.ec? bytes)
  | kind => return .other kind

/-- Whether a signature holds for a message.  The point at infinity is no usable key, and an empty
signature matches nothing. -/
def EcKey.verifies? (k : EcKey) (d : Digest) (signature message : Bytes) : Option Bool :=
  if k.point.z = 0 then none
  else if signature.isEmpty then some false
  else (EcSignature.decode? signature).map fun sig => k.holds sig (d.hash message)

/-- The algorithms with which certificates may be signed, by dotted identifier.  Older ones are let
through here that are not supported elsewhere. -/
def SignatureAlgorithm.issuerTable : List (String × SignatureAlgorithm) := [
  ("1.2.840.113549.1.1.4", .rsa .md5), ("1.2.840.113549.1.1.5", .rsa .sha1),
  ("1.3.14.3.2.29", .rsa .sha1), ("1.2.840.113549.1.1.14", .rsa .sha224),
  ("1.2.840.113549.1.1.11", .rsa .sha256), ("1.2.840.113549.1.1.12", .rsa .sha384),
  ("1.2.840.113549.1.1.13", .rsa .sha512), ("1.2.840.10045.4.1", .ecdsa .sha1),
  ("1.2.840.10045.4.3.1", .ecdsa .sha224), ("1.2.840.10045.4.3.2", .ecdsa .sha256),
  ("1.2.840.10045.4.3.3", .ecdsa .sha384), ("1.2.840.10045.4.3.4", .ecdsa .sha512)]

namespace Path.Link

/-- Whether a certificate is signed with a key, by one algorithm named alike inside and outside. -/
def verifies? (l : Link) (key : OpenKey) : Option Bool :=
  if !l.algorithm.agrees l.innerAlgorithm then some false
  else if l.signature.unused ≠ 0 then none
  else match SignatureAlgorithm.issuerTable.lookup l.algorithm.id.dotted, key with
    | some (.rsa d), .rsa k => some (k.verifies d l.signature.data l.signedPart)
    | some (.ecdsa d), .curve k => k.verifies? d l.signature.data l.signedPart
    | _, _ => none

/-- Whether the signature of a certificate holds under a public key. -/
def isSignedBy (l : Link) (key : Bytes) : Bool :=
  (OpenKey.read? key).bind l.verifies? = some true

end Path.Link

/-- A check that is set up: its digest, its key and the data so far. -/
structure OpenVerifier where
  digest : Digest
  key : OpenKey
  data : Bytes
  deriving DecidableEq, Repr

/-- Whether a signature holds for the data of a check. -/
def OpenVerifier.verify? (v : OpenVerifier) (signature : Bytes) : Option Bool :=
  match v.key with
  | .rsa k => some (k.verifies v.digest signature v.data)
  | .curve k => k.verifies? v.digest signature v.data
  | .other _ => none

/-- The library. -/
instance : CryptoLibrary where
  RsaKey := RsaKey
  CurveKey := EcKey
  PublicKey := OpenKey
  Certificate := Path.Link
  Verifier := OpenVerifier
  readRsaKey? := PublicKey.rsa?
  readCurveKey? := PublicKey.ec?
  readPublicKey? := OpenKey.read?
  readCertificate? := Path.Link.decode?
  ofRsaKey? := fun k => some (.rsa k)
  ofCurveKey? := fun k => if k.point.z = 0 then none else some (.curve k)
  verifier? := fun digest key => some ⟨digest, key, []⟩
  update? := fun v data => some { v with data := v.data ++ data }
  verify? := OpenVerifier.verify?
  verifyOneshot? := fun v signature data => { v with data := v.data ++ data }.verify? signature
  isSignedBy? := Path.Link.verifies?

end SignerTrust
