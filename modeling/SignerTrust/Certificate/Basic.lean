import SignerTrust.Certificate.Extension
import SignerTrust.Certificate.Name
import SignerTrust.Certificate.Time

/-!
# Certificates

A certificate is what its issuer signed, the signature algorithm and the signature.  The bytes of
the signed part and of the public key are kept as they were read.
-/

namespace SignerTrust

/-- An algorithm and its parameters. -/
structure AlgorithmId where
  algorithm : Oid
  parameters : Option Der.Element
  deriving DecidableEq, Repr

/-- Reads an algorithm and its parameters. -/
def AlgorithmId.read? : Bytes → Option (AlgorithmId × Bytes) :=
  Der.inside? Der.Tag.sequence fun content => do
    let (algorithm, rest) ← Der.oid? content
    if rest.isEmpty then return (⟨algorithm, none⟩, rest)
    else
      let (parameters, rest) ← Der.Element.read? rest
      return (⟨algorithm, some parameters⟩, rest)

/-- A public key with its algorithm; `encoding` starts at the sequence and ends after the key. -/
structure PublicKeyInfo where
  algorithm : AlgorithmId
  key : Der.BitString
  encoding : Bytes
  deriving DecidableEq, Repr

/-- Reads a public key. -/
def PublicKeyInfo.read? (bytes : Bytes) : Option (PublicKeyInfo × Bytes) := do
  let (e, rest) ← Der.Element.readTag? Der.Tag.sequence bytes
  let (algorithm, afterAlgorithm) ← AlgorithmId.read? e.content
  let (key, left) ← Der.bitString? afterAlgorithm
  return (⟨algorithm, key, e.encoding.take (e.encoding.length - left.length)⟩, rest)

/-- A certificate. -/
structure Certificate where
  version : Nat
  serial : Bytes
  innerAlgorithm : AlgorithmId
  issuer : Name
  notBefore : Time
  notAfter : Time
  subject : Name
  publicKey : PublicKeyInfo
  extensions : List Extension
  signedPart : Bytes
  algorithm : AlgorithmId
  signature : Der.BitString
  deriving DecidableEq, Repr

namespace Certificate

/-- The version number of certificates that may carry extensions. -/
def version3 : Nat := 2

/-- Reads the version, which is the first version if it is left out. -/
def readVersion? (bytes : Bytes) : Option (Nat × Bytes) := do
  let (id, _) ← Der.identifier? bytes
  if id.tag ≠ 0 then return (0, bytes)
  else
    let (e, rest) ← Der.Element.read? bytes
    if e.tagClass = .contextSpecific then
      let (n, _) ← Der.smallInteger? e.content
      return (n, rest)
    else none

/-- How deeply elements that are open at their end may nest. -/
def serialDepth : Nat := 50

/-- Reads the bytes of a serial number. -/
def readSerial? (bytes : Bytes) : Option (Bytes × Bytes) := do
  let (id, afterId) ← Der.identifier? bytes
  let (content, rest, _) ← Der.skip? serialDepth id afterId
  if id.tag = Der.Tag.integer then return (content, rest) else none

/-- Reads the two ends of the validity period. -/
def readValidity? : Bytes → Option ((Time × Time) × Bytes) :=
  Der.inside? Der.Tag.sequence fun content => do
    let (notBefore, rest) ← Time.read? content
    let (notAfter, rest) ← Time.read? rest
    return ((notBefore, notAfter), rest)

/-- Passes over an optional identifier of tag `tag`, whose content is bits. -/
def skipUniqueId? (tag : Nat) (bytes : Bytes) : Option Bytes :=
  if bytes.isEmpty then some bytes
  else do
    let (id, _) ← Der.identifier? bytes
    if id.tag ≠ tag then return bytes
    else
      let (e, rest) ← Der.Element.read? bytes
      if e.tagClass = .contextSpecific && (Der.BitString.ofContent? e.content).isSome then
        return rest
      else none

/-- Reads a certificate; bytes after it are handed back. -/
def read? (bytes : Bytes) : Option (Certificate × Bytes) := do
  let (outer, rest) ← Der.Element.readTag? Der.Tag.sequence bytes
  let (signed, afterSigned) ← Der.Element.readTag? Der.Tag.sequence outer.content
  let (version, r) ← readVersion? signed.content
  let (serial, r) ← readSerial? r
  let (innerAlgorithm, r) ← AlgorithmId.read? r
  let (issuer, r) ← Name.read? r
  let ((notBefore, notAfter), r) ← readValidity? r
  let (subject, r) ← Name.read? r
  let (publicKey, r) ← PublicKeyInfo.read? r
  let r ← skipUniqueId? 1 r
  let r ← skipUniqueId? 2 r
  let extensions ← Extension.readRest? 3 r
  let (algorithm, afterAlgorithm) ← AlgorithmId.read? afterSigned
  let (signature, _) ← Der.bitString? afterAlgorithm
  return ({ version, serial, innerAlgorithm, issuer, notBefore, notAfter, subject, publicKey,
            extensions, signedPart := signed.encoding, algorithm, signature }, rest)

/-- The certificate at the front of a byte string. -/
def decode? (bytes : Bytes) : Option Certificate :=
  (read? bytes).map (·.1)

/-- The serial number as a number. -/
def serialNumber (c : Certificate) : Nat :=
  Bytes.toNat c.serial

/-- The extension of a name, if there is exactly one. -/
def extension? (c : Certificate) (name : Oid) : Option Extension :=
  Extension.unique? name c.extensions

end Certificate

end SignerTrust
