import SignerTrust.Calendar
import SignerTrust.Path.Name
import SignerTrust.Signature.PublicKey

/-!
# Links of a path

A link is a certificate as a path sees it.  Two links are the same certificate if what was signed,
the algorithm and the signature agree.
-/

namespace SignerTrust.Path

open Der Der.Grammar

/-- An algorithm and its parameters. -/
structure LinkAlgorithm where
  id : Oid
  parameters : Option Element
  deriving DecidableEq, Repr

/-- Whether two algorithms agree in identifier and parameters. -/
def LinkAlgorithm.agrees (a b : LinkAlgorithm) : Bool :=
  a.id = b.id && match a.parameters, b.parameters with
    | none, none => true
    | some p, some q =>
      if isKept p then p.encoding = q.encoding
      else p.tagClass = q.tagClass && p.tag = q.tag && p.content = q.content
    | _, _ => false

/-- A time of a validity period, undecoded. -/
structure Moment where
  tag : Nat
  content : Bytes
  deriving DecidableEq, Repr

/-- An extension. -/
structure LinkExtension where
  name : String
  critical : Bool
  value : Bytes
  deriving DecidableEq, Repr

/-- A certificate in a path. -/
structure Link where
  version : Int
  serial : Int
  innerAlgorithm : LinkAlgorithm
  issuer : ComparableName
  notBefore : Moment
  notAfter : Moment
  subject : ComparableName
  publicKey : Bytes
  extensions : List LinkExtension
  signedPart : Bytes
  algorithm : LinkAlgorithm
  signature : BitString
  deriving DecidableEq, Repr

namespace Link

/-- Takes off an algorithm. -/
def readAlgorithm? (bytes : Bytes) : Option (LinkAlgorithm × Bytes) :=
  (PublicKey.algorithm? bytes).map fun ((id, parameters), rest) => (⟨id, parameters⟩, rest)

/-- Takes off a time of either form. -/
def readMoment? (bytes : Bytes) : Option (Moment × Bytes) := do
  let (e, rest) ← value? bytes
  if e.tagClass = .universal ∧ (e.tag = Tag.utcTime ∨ e.tag = Tag.generalizedTime) then
    return (⟨e.tag, e.content⟩, rest)
  else none

/-- Takes off the two ends of the validity period. -/
def readPeriod? : Bytes → Option ((Moment × Moment) × Bytes) :=
  sequence? fun content => do
    let (notBefore, rest) ← readMoment? content
    let (notAfter, rest) ← readMoment? rest
    return ((notBefore, notAfter), rest)

/-- Takes off a public key; hands back its bytes. -/
def readKey? (bytes : Bytes) : Option (Bytes × Bytes) := do
  let (_, rest) ← sequence? (fun content => do
    let (_, rest) ← readAlgorithm? content
    bits? .universal Tag.bitString rest) bytes
  return (bytes.take (bytes.length - rest.length), rest)

/-- Takes off an extension, which is not critical unless it says so. -/
def readExtension? : Bytes → Option (LinkExtension × Bytes) :=
  sequence? fun content => do
    let (name, rest) ← objectId? .universal Tag.objectId content
    let (critical, rest) ← optional? .universal Tag.boolean flag? rest
    let (value, rest) ← Grammar.octets? .universal Tag.octetString rest
    return (⟨name.dotted, critical.getD false, value⟩, rest)

/-- Takes off what the issuer signed; algorithm and signature are still open. -/
def readSigned? (bytes : Bytes) : Option ((LinkAlgorithm → BitString → Link) × Bytes) := do
  let (outer, _) ← next? bytes
  sequence? (fun content => do
    let version := structure? .contextSpecific 0 (integer? .universal Tag.integer)
    let (version, r) ← optional? .contextSpecific 0 version content
    let (serial, r) ← Grammar.integer? .universal Tag.integer r
    let (innerAlgorithm, r) ← readAlgorithm? r
    let (issuer, r) ← ComparableName.read? r
    let ((notBefore, notAfter), r) ← readPeriod? r
    let (subject, r) ← ComparableName.read? r
    let (publicKey, r) ← readKey? r
    let (_, r) ← optional? .contextSpecific 1 (bits? .contextSpecific 1) r
    let (_, r) ← optional? .contextSpecific 2 (bits? .contextSpecific 2) r
    let (extensions, r) ← optional? .contextSpecific 3
      (structure? .contextSpecific 3 (sequence? (items? readExtension?))) r
    return (fun algorithm signature => {
      version := version.getD 0
      serial, innerAlgorithm, issuer, notBefore, notAfter, subject, publicKey
      extensions := extensions.getD []
      signedPart := outer.encoding
      algorithm, signature }, r)) bytes

/-- Takes off a certificate. -/
def read? : Bytes → Option (Link × Bytes) :=
  sequence? fun content => do
    let (signed, rest) ← readSigned? content
    let (algorithm, rest) ← readAlgorithm? rest
    let (signature, rest) ← bits? .universal Tag.bitString rest
    return (signed algorithm signature, rest)

/-- The certificate at the front of a byte string. -/
def decode? (bytes : Bytes) : Option Link :=
  (read? bytes).map (·.1)

/-- Whether two links are the same certificate. -/
def same (a b : Link) : Bool :=
  a.signedPart = b.signedPart && a.algorithm.agrees b.algorithm && a.signature = b.signature

end Link

namespace Moment

/-- The instant of a time: digits for year, month, day, hour, minute and second, and a `Z`. -/
def epoch? (m : Moment) : Option Int := do
  let width := if m.tag = Tag.utcTime then shortTimeLength else longTimeLength
  if m.content.length ≠ width ∨ m.content.getLast? ≠ some 0x5a
      ∨ !m.content.dropLast.all (fun b => 0x30 ≤ b && b ≤ 0x39) then none
  else
    let digits := m.content.dropLast.map fun b => b.toNat - 0x30
    let number := fun (start count : Nat) =>
      ((digits.drop start).take count).foldl (fun n d => n * 10 + d) 0
    let w := width - 11
    let year := number 0 w
    let year := if m.tag ≠ Tag.utcTime then year else if year < 50 then 2000 + year else 1900 + year
    let t : CivilTime :=
      ⟨year, number w 2, number (w + 2) 2, number (w + 4) 2, number (w + 6) 2, number (w + 8) 2⟩
    if t.hasDate && t.hasClock then some t.toEpoch else none

end Moment

/-- The kind of a public key. -/
inductive KeyKind
  | rsa
  | rsaSalted
  | curve
  | edwards25519
  | edwards448
  | montgomery
  deriving DecidableEq, Repr

/-- The keys of a fixed length: their algorithm, kind and number of bytes. -/
def KeyKind.ofFixedLength : List (String × KeyKind × Nat) := [
  ("1.3.101.110", .montgomery, 32), ("1.3.101.111", .montgomery, 56),
  ("1.3.101.112", .edwards25519, 32), ("1.3.101.113", .edwards448, 57)]

/-- The kind of a public key, if the key can be read. -/
def KeyKind.ofKey? (key : Bytes) : Option KeyKind := do
  let env ← PublicKey.envelope? key
  if env.algorithm = PublicKey.rsaId then (PublicKey.rsa? key).map fun _ => .rsa
  else if env.algorithm = PublicKey.rsaSaltedId then (PublicKey.rsa? key).map fun _ => .rsaSalted
  else if env.algorithm = PublicKey.ecId then (PublicKey.ec? key).map fun _ => .curve
  else
    let (kind, length) ← KeyKind.ofFixedLength.lookup env.algorithm
    if env.parameters.isNone ∧ env.bits.length = length then some kind else none

/-- The kind of the key in a link, if the key can be read. -/
def Link.keyKind? (l : Link) : Option KeyKind :=
  KeyKind.ofKey? l.publicKey

/-- The kind of key that each signature algorithm needs, by dotted identifier. -/
def KeyKind.bySignature : List (String × KeyKind) := [
  ("1.2.840.113549.1.1.2", .rsa), ("1.2.840.113549.1.1.3", .rsa), ("1.2.840.113549.1.1.4", .rsa),
  ("1.2.840.113549.1.1.5", .rsa), ("1.2.840.113549.1.1.11", .rsa),
  ("1.2.840.113549.1.1.12", .rsa), ("1.2.840.113549.1.1.13", .rsa),
  ("1.2.840.113549.1.1.14", .rsa), ("1.2.840.113549.1.1.15", .rsa),
  ("1.2.840.113549.1.1.16", .rsa), ("1.3.14.3.2.3", .rsa), ("1.3.14.3.2.29", .rsa),
  ("1.3.36.3.3.1.2", .rsa), ("2.16.840.1.101.3.4.3.13", .rsa), ("2.16.840.1.101.3.4.3.14", .rsa),
  ("2.16.840.1.101.3.4.3.15", .rsa), ("2.16.840.1.101.3.4.3.16", .rsa),
  ("1.2.840.113549.1.1.10", .rsaSalted), ("1.2.840.10045.4.1", .curve),
  ("1.2.840.10045.4.2", .curve), ("1.2.840.10045.4.3.1", .curve), ("1.2.840.10045.4.3.2", .curve),
  ("1.2.840.10045.4.3.3", .curve), ("1.2.840.10045.4.3.4", .curve),
  ("2.16.840.1.101.3.4.3.9", .curve), ("2.16.840.1.101.3.4.3.10", .curve),
  ("2.16.840.1.101.3.4.3.11", .curve), ("2.16.840.1.101.3.4.3.12", .curve),
  ("1.3.101.112", .edwards25519), ("1.3.101.113", .edwards448)]

/-- Whether a key of the issuer's kind can have made a signature of the link's algorithm. -/
def Link.fitsKey (l : Link) (key : Option KeyKind) : Bool :=
  match key, KeyKind.bySignature.lookup l.innerAlgorithm.id.dotted with
  | some key, some needed => key = needed || (key = .rsa && needed = .rsaSalted)
  | _, _ => false

end SignerTrust.Path
