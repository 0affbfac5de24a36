import SignerTrust.Signature.Library

/-!
# Signatures

A signature algorithm is named by its dotted identifier and fixes the kind of key and the digest.
Checking a signature tells apart an unsupported algorithm, a key that cannot be read, a signature
that cannot be read, one that does not match, and a failure of the library.
-/

namespace SignerTrust

/-- A supported signature algorithm. -/
inductive SignatureAlgorithm
  | rsa (digest : Digest)
  | ecdsa (digest : Digest)
  deriving DecidableEq, Repr

/-- The supported algorithms by dotted identifier. -/
def SignatureAlgorithm.table : List (String × SignatureAlgorithm) := [
  ("1.2.840.113549.1.1.5", .rsa .sha1), ("1.2.840.113549.1.1.11", .rsa .sha256),
  ("1.2.840.113549.1.1.12", .rsa .sha384), ("1.2.840.113549.1.1.13", .rsa .sha512),
  ("1.2.840.10045.4.3.2", .ecdsa .sha256), ("1.2.840.10045.4.3.3", .ecdsa .sha384),
  ("1.2.840.10045.4.3.4", .ecdsa .sha512)]

/-- The algorithm of a dotted identifier. -/
def SignatureAlgorithm.ofId? (id : String) : Option SignatureAlgorithm :=
  table.lookup id

/-- Why a signature was not accepted. -/
inductive SignatureError
  | mismatch
  | invalidPublicKey
  | invalidSignature
  | unsupportedAlgorithm (id : String)
  | library
  deriving DecidableEq, Repr

/-- The text of a signature error; that of a failure of the library is not fixed. -/
def SignatureError.message? : SignatureError → Option String
  | mismatch => some "the signature does not match the provided data or public key"
  | invalidPublicKey => some "invalid public key"
  | invalidSignature => some "invalid signature value"
  | unsupportedAlgorithm id => some ("signature uses an unsupported algorithm (" ++ id ++ ")")
  | library => none

namespace Signature

variable [CryptoLibrary]

/-- Checks a signature by an RSA key. -/
def verifyRsa (d : Digest) (signature message key : Bytes) : Except SignatureError Unit := do
  let some key := CryptoLibrary.readRsaKey? key | throw .invalidPublicKey
  let some key := CryptoLibrary.ofRsaKey? key | throw .library
  let some verifier := CryptoLibrary.verifier? d key | throw .library
  match CryptoLibrary.verifyOneshot? verifier signature message with
  | none => throw .library
  | some true => return
  | some false => throw .mismatch

/-- Checks a signature by a key on a curve.  A check that fails is put down to the signature. -/
def verifyEcdsa (d : Digest) (signature message key : Bytes) : Except SignatureError Unit := do
  let some key := CryptoLibrary.readCurveKey? key | throw .invalidPublicKey
  let some key := CryptoLibrary.ofCurveKey? key | throw .library
  let some verifier := CryptoLibrary.verifier? d key | throw .library
  let some verifier := CryptoLibrary.update? verifier message | throw .library
  match CryptoLibrary.verify? verifier signature with
  | none => throw .invalidSignature
  | some true => return
  | some false => throw .mismatch

/-- Checks a signature over a message by the algorithm of dotted identifier `id`. -/
def verify (id : String) (signature message key : Bytes) : Except SignatureError Unit :=
  match SignatureAlgorithm.ofId? id with
  | none => .error (.unsupportedAlgorithm id)
  | some (.rsa d) => verifyRsa d signature message key
  | some (.ecdsa d) => verifyEcdsa d signature message key

end Signature

end SignerTrust
