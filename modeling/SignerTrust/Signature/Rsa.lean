import SignerTrust.Digest
import SignerTrust.Signature.PublicKey

/-!
# RSA signatures

A signature is a number below the modulus whose power is a block: the digest and the name of its
algorithm, filled up with ones.  The whole block is compared.
-/

namespace SignerTrust

/-- What stands before the digest in a signed block: the name of its algorithm. -/
def Digest.blockHeader : Digest → Bytes
  | .md5 => [0x30, 0x20, 0x30, 0x0c, 0x06, 0x08, 0x2a, 0x86, 0x48, 0x86, 0xf7, 0x0d, 0x02, 0x05,
      0x05, 0x00, 0x04, 0x10]
  | .sha1 => [0x30, 0x21, 0x30, 0x09, 0x06, 0x05, 0x2b, 0x0e, 0x03, 0x02, 0x1a, 0x05, 0x00, 0x04,
      0x14]
  | .sha224 => [0x30, 0x2d, 0x30, 0x0d, 0x06, 0x09, 0x60, 0x86, 0x48, 0x01, 0x65, 0x03, 0x04, 0x02,
      0x04, 0x05, 0x00, 0x04, 0x1c]
  | .sha256 => [0x30, 0x31, 0x30, 0x0d, 0x06, 0x09, 0x60, 0x86, 0x48, 0x01, 0x65, 0x03, 0x04, 0x02,
      0x01, 0x05, 0x00, 0x04, 0x20]
  | .sha384 => [0x30, 0x41, 0x30, 0x0d, 0x06, 0x09, 0x60, 0x86, 0x48, 0x01, 0x65, 0x03, 0x04, 0x02,
      0x02, 0x05, 0x00, 0x04, 0x30]
  | .sha512 => [0x30, 0x51, 0x30, 0x0d, 0x06, 0x09, 0x60, 0x86, 0x48, 0x01, 0x65, 0x03, 0x04, 0x02,
      0x03, 0x05, 0x00, 0x04, 0x40]

namespace RsaKey

/-- How many bytes the modulus takes. -/
def width (k : RsaKey) : Nat :=
  Bytes.widthOf k.modulus

/-- The block of `width` bytes that a signature over a message has to open to, if it fits. -/
def block? (d : Digest) (width : Nat) (message : Bytes) : Option Bytes :=
  let tail := d.blockHeader ++ d.hash message
  if tail.length + 11 ≤ width then
    some (0 :: 1 :: List.replicate (width - tail.length - 3) 0xff ++ 0 :: tail)
  else none

/-- Whether a signature over a message opens to its block. -/
def verifies (k : RsaKey) (d : Digest) (signature message : Bytes) : Bool :=
  let s := Bytes.toNat signature
  match block? d k.width message with
  | none => false
  | some block =>
    signature.length = k.width && s < k.modulus && k.exponent < k.modulus && k.modulus % 2 = 1
      && Modular.pow s k.exponent k.modulus = Bytes.toNat block

end RsaKey

end SignerTrust
