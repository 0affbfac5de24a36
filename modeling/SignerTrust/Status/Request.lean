import SignerTrust.Canonical.Certificate
import SignerTrust.Digest

/-!
# Status requests

A request names one certificate by digests of its issuer's name and key and by its serial number.
It may carry a nonce, which the response has to repeat.
-/

namespace SignerTrust

/-- The name of a certificate in requests and responses. -/
structure CertId where
  digestAlgorithm : Canonical.AlgorithmId
  issuerName : Bytes
  issuerKey : Bytes
  serial : Int
  deriving DecidableEq, Repr

namespace CertId

/-- The digest used in requests: SHA-1, whose parameters are written as null. -/
def sha1Id : Canonical.AlgorithmId :=
  ⟨[1, 3, 14, 3, 2, 26], some [0x05, 0x00]⟩

/-- The name of an encoded certificate, if it and its issuer's can be read. -/
def ofEncoded? (certificate issuer : Bytes) : Option CertId := do
  let subject ← Canonical.Certificate.decode? certificate
  let issuer ← Canonical.Certificate.decode? issuer
  return {
    digestAlgorithm := sha1Id
    issuerName := Digest.sha1.hash issuer.subject.encode
    issuerKey := Digest.sha1.hash issuer.publicKey.key.data
    serial := subject.serial }

/-- Writes the name. -/
def encode (id : CertId) : Bytes :=
  Der.encode 0x30 (id.digestAlgorithm.encode ++ Der.encode 0x04 id.issuerName
    ++ Der.encode 0x04 id.issuerKey ++ Der.encode 0x02 (Canonical.encodeTwosComplement id.serial))

/-- Reads a name. -/
def read : Canonical.Reader CertId :=
  Canonical.Reader.sequence do
    let digestAlgorithm ← Canonical.algorithmId
    let issuerName ← Canonical.octets
    let issuerKey ← Canonical.octets
    let serial ← Canonical.integer
    return ⟨digestAlgorithm, issuerName, issuerKey, serial⟩

/-- Whether two names are those of one certificate.  The parameters of the digest do not count. -/
def sameCertificate (a b : CertId) : Bool :=
  a.digestAlgorithm.algorithm = b.digestAlgorithm.algorithm && a.issuerName = b.issuerName
    && a.issuerKey = b.issuerKey && a.serial = b.serial

end CertId

/-- A request for the status of one certificate. -/
structure StatusRequest where
  certificate : CertId
  nonce : Option Bytes
  deriving DecidableEq, Repr

namespace StatusRequest

/-- The extension that holds a nonce. -/
def nonceName : Canonical.Arcs := [1, 3, 6, 1, 5, 5, 7, 48, 1, 2]

/-- How many random bytes a nonce has. -/
def nonceLength : Nat := 16

/-- The value of the nonce extension for random bytes: an octet string. -/
def nonceValue (random : Bytes) : Bytes :=
  Der.encode 0x04 random

/-- The request for a certificate; the nonce is made of the random bytes, if there are any. -/
def make (certificate : CertId) (random : Option Bytes) : StatusRequest :=
  ⟨certificate, random.map nonceValue⟩

/-- The extensions of a request. -/
def extensions (r : StatusRequest) : Option (List Canonical.Extension) :=
  r.nonce.map fun value => [⟨nonceName, false, value⟩]

/-- Writes a request. -/
def encode (r : StatusRequest) : Bytes :=
  Der.encode 0x30 (Der.encode 0x30 (
    Canonical.Certificate.encodeVersion 0
    ++ Der.encode 0x30 (Der.encode 0x30 r.certificate.encode)
    ++ (r.extensions.map fun es => Der.encode 0xa2 (Canonical.encodeExtensions es)).getD []))

end StatusRequest

end SignerTrust
