import SignerTrust.Der.Grammar
import SignerTrust.Signature.Curve

/-!
# Public keys

A key comes as an algorithm and bits.  The bits of one kind hold a modulus and an exponent, those of
the other a point of the curve that the parameters name.  Only named curves are known
(`Curve.all`): a key whose parameters spell out a curve is not read.
-/

namespace SignerTrust

/-- A modulus and an exponent. -/
structure RsaKey where
  modulus : Nat
  exponent : Nat
  deriving DecidableEq, Repr

/-- A point of a curve. -/
structure EcKey where
  curve : Curve
  point : Curve.Point
  deriving DecidableEq, Repr

namespace PublicKey

open Der Der.Grammar

/-- An algorithm with its parameters, and the bytes of the key. -/
structure Envelope where
  algorithm : String
  parameters : Option Element
  bits : Bytes
  deriving DecidableEq, Repr

/-- Takes off an algorithm and its parameters. -/
def algorithm? : Bytes → Option ((Oid × Option Element) × Bytes) :=
  sequence? fun content => do
    let (id, rest) ← objectId? .universal Tag.objectId content
    if rest.isEmpty then return ((id, none), rest)
    else
      let (parameters, rest) ← value? rest
      return ((id, some parameters), rest)

/-- Reads an algorithm and bits; bytes after them are dropped. -/
def envelope? (bytes : Bytes) : Option Envelope :=
  (sequence? (fun content => do
    let ((id, parameters), rest) ← algorithm? content
    let (key, rest) ← bits? .universal Tag.bitString rest
    return ((⟨id.dotted, parameters, key.data⟩ : Envelope), rest)) bytes).map (·.1)

/-- The algorithm of RSA keys, and that of RSA keys for salted signatures. -/
def rsaId : String := "1.2.840.113549.1.1.1"
def rsaSaltedId : String := "1.2.840.113549.1.1.10"

/-- The algorithm of keys on curves. -/
def ecId : String := "1.2.840.10045.2.1"

/-- Reads two numbers that fill a sequence. -/
def rsaBits? (bits : Bytes) : Option RsaKey := do
  let (seq, _) ← element? .universal Tag.sequence true bits
  let (n, r) ← element? .universal Tag.integer false seq.content
  let (e, r) ← element? .universal Tag.integer false r
  if r.isEmpty then return ⟨Bytes.toNat n.content, Bytes.toNat e.content⟩ else none

/-- Reads an RSA key; one for salted signatures has no parameters or a sequence of them. -/
def rsa? (bytes : Bytes) : Option RsaKey := do
  let env ← envelope? bytes
  if env.algorithm = rsaId then rsaBits? env.bits
  else if env.algorithm = rsaSaltedId
      ∧ env.parameters.all (fun e => e.isUniversal Tag.sequence) then rsaBits? env.bits
  else none

/-- Reads a key on a curve. -/
def ec? (bytes : Bytes) : Option EcKey := do
  let env ← envelope? bytes
  let parameters ← env.parameters
  if env.algorithm = ecId ∧ parameters.isUniversal Tag.objectId then
    let curve ← Curve.ofId? (Oid.dotted ⟨parameters.content⟩)
    return ⟨curve, ← curve.readPoint? env.bits⟩
  else none

end PublicKey

end SignerTrust
