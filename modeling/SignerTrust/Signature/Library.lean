import SignerTrust.Digest

/-!
# The cryptographic library

Keys and certificates are read and signatures are checked by a library.  What is said here of it is
what it offers: all that rests on signatures is stated over any library.
-/

namespace SignerTrust

/-- What a cryptographic library offers.  An operation that fails has no result. -/
class CryptoLibrary where
  /-- Keys of the two kinds that signatures are checked with. -/
  RsaKey : Type
  CurveKey : Type
  /-- Keys of any kind. -/
  PublicKey : Type
  /-- Certificates as the library reads them. -/
  Certificate : Type
  /-- Checks that have been set up with a digest, a key and some data. -/
  Verifier : Type
  readRsaKey? : Bytes → Option RsaKey
  readCurveKey? : Bytes → Option CurveKey
  readPublicKey? : Bytes → Option PublicKey
  readCertificate? : Bytes → Option Certificate
  ofRsaKey? : RsaKey → Option PublicKey
  ofCurveKey? : CurveKey → Option PublicKey
  /-- Sets up a check, without data so far. -/
  verifier? : Digest → PublicKey → Option Verifier
  /-- Adds data to a check. -/
  update? : Verifier → (data : Bytes) → Option Verifier
  /-- Whether a signature holds for the data of a check. -/
  verify? : Verifier → (signature : Bytes) → Option Bool
  /-- Whether a signature holds for the data of a check and some more. -/
  verifyOneshot? : Verifier → (signature data : Bytes) → Option Bool
  /-- Whether a certificate is signed with a key. -/
  isSignedBy? : Certificate → PublicKey → Option Bool

end SignerTrust
