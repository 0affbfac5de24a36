import SignerTrust.Digest
import SignerTrust.Signature.PublicKey

/-!
# Signatures by points

A signature is a pair of numbers in the shortest encoding.  It holds for a digest if a sum of
multiples of the base point and of the key has the first number for its first coordinate.
-/

namespace SignerTrust

/-- The two numbers of a signature. -/
structure EcSignature where
  r : Nat
  s : Nat
  deriving DecidableEq, Repr

namespace EcSignature

/-- The shortest encoding of a number that is not negative. -/
def encodeNumber (n : Nat) : Bytes :=
  let digits := Bytes.ofNatMinimal n
  let content := if (digits.head?.all fun b => 0x80 ≤ b) then 0 :: digits else digits
  Der.encode 0x02 content

/-- The shortest encoding of a signature. -/
def encode (sig : EcSignature) : Bytes :=
  Der.encode 0x30 (encodeNumber sig.r ++ encodeNumber sig.s)

/-- Reads a signature, which must be in the shortest encoding and fill its bytes. -/
def decode? (bytes : Bytes) : Option EcSignature := do
  let (seq, _) ← Der.Grammar.element? .universal Der.Tag.sequence true bytes
  let (r, rest) ← Der.Grammar.element? .universal Der.Tag.integer false seq.content
  let (s, _) ← Der.Grammar.element? .universal Der.Tag.integer false rest
  let sig : EcSignature := ⟨Bytes.toNat r.content, Bytes.toNat s.content⟩
  if sig.encode = bytes then return sig else none

end EcSignature

namespace EcKey

/-- The high bits of a digest, as many as the order of the base point has. -/
def truncate (c : Curve) (digest : Bytes) : Nat :=
  Bytes.toNat digest >>> (8 * digest.length - (c.n.log2 + 1))

/-- Whether a signature holds for a digest. -/
def holds (k : EcKey) (sig : EcSignature) (digest : Bytes) : Bool :=
  let c := k.curve
  if sig.r = 0 ∨ sig.s = 0 ∨ c.n ≤ sig.r ∨ c.n ≤ sig.s then false
  else
    let w := Modular.inverse sig.s c.n
    let u1 := truncate c digest * w % c.n
    let u2 := sig.r * w % c.n
    let sum := c.add (c.multiple u1 c.base) (c.multiple u2 k.point)
    match c.abscissa? sum with
    | none => false
    | some x => x % c.n = sig.r

end EcKey

end SignerTrust
