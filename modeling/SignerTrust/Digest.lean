import SignerTrust.Digest.Md5
import SignerTrust.Digest.Sha1
import SignerTrust.Digest.Sha2

/-!
# Digest algorithms

The digests that a signature can be made over, under one name.
-/

namespace SignerTrust

/-- A digest algorithm. -/
inductive Digest
  | md5
  | sha1
  | sha224
  | sha256
  | sha384
  | sha512
  deriving DecidableEq, Repr

namespace Digest

/-- The digest of a message. -/
def hash : Digest → Bytes → Bytes
  | md5 => Md5.digest
  | sha1 => Sha1.digest
  | sha224 => Sha2.sha224
  | sha256 => Sha2.sha256
  | sha384 => Sha2.sha384
  | sha512 => Sha2.sha512

/-- How many bytes the digest has. -/
def size : Digest → Nat
  | md5 => 16
  | sha1 => 20
  | sha224 => 28
  | sha256 => 32
  | sha384 => 48
  | sha512 => 64

end Digest

end SignerTrust
