import SignerTrust.Canonical.Reader

/-!
# Certificates in canonical form

What is read is written again in the one canonical way: shortest lengths and numbers, sets in order,
marks left out where they say what holds without them.  Names and keys are hashed in that form.
-/

namespace SignerTrust.Canonical

open Der

/-- An algorithm and its parameters, the latter as they were written. -/
structure AlgorithmId where
  algorithm : Arcs
  parameters : Option Bytes
  deriving DecidableEq, Repr

/-- Reads an algorithm. -/
def algorithmId : Reader AlgorithmId :=
  Reader.sequence do
    let algorithm ← oid
    let parameters ← Reader.optionally Reader.anything
    return ⟨algorithm, parameters.map (·.encoding)⟩

/-- Writes an algorithm. -/
def AlgorithmId.encode (a : AlgorithmId) : Bytes :=
  Der.encode 0x30 (encodeOid a.algorithm ++ a.parameters.getD [])

/-- An attribute of a name. -/
structure Attribute where
  kind : Arcs
  value : Bytes
  deriving DecidableEq, Repr

/-- Reads an attribute. -/
def nameAttribute : Reader Attribute :=
  Reader.sequence do
    let kind ← oid
    let value ← Reader.anything
    return ⟨kind, value.encoding⟩

/-- Writes an attribute. -/
def Attribute.encode (a : Attribute) : Bytes :=
  Der.encode 0x30 (encodeOid a.kind ++ a.value)

/-- The order of byte strings: by the first byte that differs, a start before the whole. -/
def bytesLe : Bytes → Bytes → Bool
  | [], _ => true
  | _ :: _, [] => false
  | a :: as, b :: bs => if a = b then bytesLe as bs else a < b

/-- A name: sets of attributes, each written and in order. -/
structure Name where
  sets : List (List Bytes)
  deriving DecidableEq, Repr

/-- Reads a set of attributes and puts it in order. -/
def attributeSet : Reader (List Bytes) := do
  let attributes ← Reader.constructed .universal Tag.set (Reader.repeated nameAttribute)
  return (attributes.map Attribute.encode).mergeSort bytesLe

/-- Reads a name. -/
def name : Reader Name := do
  return ⟨← Reader.sequenceOf attributeSet⟩

/-- Writes a name. -/
def Name.encode (n : Name) : Bytes :=
  Der.encode 0x30 (n.sets.flatMap fun set => Der.encode 0x31 set.flatten)

/-- A public key. -/
structure PublicKeyInfo where
  algorithm : AlgorithmId
  key : Bits
  deriving DecidableEq, Repr

/-- Reads a public key. -/
def publicKeyInfo : Reader PublicKeyInfo :=
  Reader.sequence do
    let algorithm ← algorithmId
    let key ← bits
    return ⟨algorithm, key⟩

/-- Writes a public key. -/
def PublicKeyInfo.encode (k : PublicKeyInfo) : Bytes :=
  Der.encode 0x30 (k.algorithm.encode ++ k.key.encode)

/-- An extension. -/
structure Extension where
  name : Arcs
  critical : Bool
  value : Bytes
  deriving DecidableEq, Repr

/-- Reads an extension, which is not critical unless it says so. -/
def extension : Reader Extension :=
  Reader.sequence do
    let name ← oid
    let critical ← Reader.optionally boolean
    let value ← octets
    return ⟨name, critical.getD false, value⟩

/-- Writes an extension. -/
def Extension.encode (e : Extension) : Bytes :=
  Der.encode 0x30 (encodeOid e.name ++ (if e.critical then [0x01, 0x01, 0xff] else [])
    ++ Der.encode 0x04 e.value)

/-- Writes a list of extensions. -/
def encodeExtensions (es : List Extension) : Bytes :=
  Der.encode 0x30 (es.flatMap Extension.encode)

/-- Reads a time of either form and hands it back as it is written. -/
def time : Reader Bytes :=
  Reader.of fun bytes =>
    match (Reader.element .universal Tag.utcTime).run bytes with
    | (some e, rest) =>
      if !e.constructed ∧ isShortTime e.content then (some (Der.encode 0x17 e.content), rest)
      else (none, rest)
    | (none, _) =>
      let (t, rest) := longTime.run bytes
      (t.map (Der.encode 0x18), rest)

/-- A certificate. -/
structure Certificate where
  version : Nat
  serial : Int
  innerAlgorithm : AlgorithmId
  issuer : Name
  notBefore : Bytes
  notAfter : Bytes
  subject : Name
  publicKey : PublicKeyInfo
  issuerId : Option Bits
  subjectId : Option Bits
  extensions : Option (List Extension)
  algorithm : AlgorithmId
  signature : Bits
  deriving DecidableEq, Repr

/-- Reads a version number, below `2 ^ 64`. -/
def versionNumber : Reader Nat := do
  let n ← integer
  if 0 ≤ n ∧ n < UInt64.size then return n.toNat else failure

/-- Reads bits under a context tag. -/
def taggedBits (tag : Nat) : Reader Bits := do
  let e ← Reader.element .contextSpecific tag
  match e.constructed, bits? e.content with
  | false, some b => pure b
  | _, _ => failure

/-- Reads what the issuer signs, without the outer algorithm and the signature. -/
def signedPart : Reader (AlgorithmId → Bits → Certificate) :=
  Reader.sequence do
    let version ← Reader.optionally (Reader.explicit 0 versionNumber)
    let serial ← integer
    let innerAlgorithm ← algorithmId
    let issuer ← name
    let (notBefore, notAfter) ← Reader.sequence do return (← time, ← time)
    let subject ← name
    let publicKey ← publicKeyInfo
    let issuerId ← Reader.optionally (taggedBits 1)
    let subjectId ← Reader.optionally (taggedBits 2)
    let extensions ← Reader.optionally (Reader.explicit 3 (Reader.sequenceOf extension))
    return fun algorithm signature => {
      version := version.getD 0
      serial, innerAlgorithm, issuer, notBefore, notAfter, subject, publicKey, issuerId, subjectId,
      extensions, algorithm, signature }

/-- Reads a certificate. -/
def certificate : Reader Certificate :=
  Reader.sequence do
    let signed ← signedPart
    let algorithm ← algorithmId
    let signature ← bits
    return signed algorithm signature

namespace Certificate

/-- The certificate at the front of a byte string. -/
def decode? (bytes : Bytes) : Option Certificate :=
  certificate.decode? bytes

/-- Writes a version number; it is written also where it is the first. -/
def encodeVersion (n : Nat) : Bytes :=
  Der.encode 0xa0 (Der.encode 0x02 (encodeTwosComplement n))

/-- Writes bits under a context tag. -/
def encodeTaggedBits (id : UInt8) (b : Option Bits) : Bytes :=
  match b with
  | none => []
  | some b => Der.encode id (UInt8.ofNat b.unused :: b.data)

/-- Writes what the issuer signs. -/
def encodeSigned (c : Certificate) : Bytes :=
  Der.encode 0x30 (
    encodeVersion c.version
    ++ Der.encode 0x02 (encodeTwosComplement c.serial)
    ++ c.innerAlgorithm.encode ++ c.issuer.encode
    ++ Der.encode 0x30 (c.notBefore ++ c.notAfter)
    ++ c.subject.encode ++ c.publicKey.encode
    ++ encodeTaggedBits 0x81 c.issuerId ++ encodeTaggedBits 0x82 c.subjectId
    ++ (c.extensions.map fun es => Der.encode 0xa3 (encodeExtensions es)).getD [])

/-- Writes a certificate. -/
def encode (c : Certificate) : Bytes :=
  Der.encode 0x30 (c.encodeSigned ++ c.algorithm.encode ++ c.signature.encode)

end Certificate

end SignerTrust.Canonical
