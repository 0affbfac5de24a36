import SignerTrust.Certificate.Basic
import SignerTrust.Signature

/-!
# Revocation lists

A revocation list names revoked certificates by serial number and is signed by their issuer.  The
reader is the tolerant one of certificates, but no entry may be unreadable.
-/

namespace SignerTrust

/-- An entry of a revocation list. -/
structure RevokedEntry where
  serial : Bytes
  date : Time
  deriving DecidableEq, Repr

/-- A revocation list. -/
structure RevocationList where
  issuer : Name
  thisUpdate : Time
  nextUpdate : Option Time
  revoked : List RevokedEntry
  extensions : List Extension
  signedPart : Bytes
  algorithm : AlgorithmId
  signature : Der.BitString
  deriving DecidableEq, Repr

namespace RevokedEntry

/-- Whether what follows the date of an entry may stand there: a list of extensions that can be
read or is cut short, or anything that is no list. -/
def allowsRest (bytes : Bytes) : Bool :=
  match Der.Element.readTag? Der.Tag.sequence bytes with
  | none => true
  | some (e, _) =>
    let left := (Der.many Extension.read? e.content).2
    left.isEmpty || Der.isCutShort left

/-- Reads an entry; its extensions are passed over. -/
def read? : Bytes → Option (RevokedEntry × Bytes) :=
  Der.inside? Der.Tag.sequence fun content => do
    let (serial, rest) ← Certificate.readSerial? content
    let (date, rest) ← Time.read? rest
    if allowsRest rest then return (⟨serial, date⟩, rest) else none

end RevokedEntry

namespace RevocationList

/-- Takes an item off the front if there is one. -/
def optional {α : Type} (item? : Bytes → Option (α × Bytes)) (bytes : Bytes) : Option α × Bytes :=
  match item? bytes with
  | some (x, rest) => (some x, rest)
  | none => (none, bytes)

/-- Reads the time of the next list, which may be missing, but not together with all that follows
it. -/
def readNextUpdate? (bytes : Bytes) : Option (Option Time × Bytes) :=
  if bytes.isEmpty then none else some (optional Time.read? bytes)

/-- Reads the entries; a list without revoked certificates may lack them. -/
def readRevoked? (bytes : Bytes) : Option (List RevokedEntry × Bytes) :=
  match Der.Element.readTag? Der.Tag.sequence bytes with
  | none => some ([], bytes)
  | some (e, rest) => (Der.all? RevokedEntry.read? e.content).map fun revoked => (revoked, rest)

/-- Reads a revocation list; bytes after it are handed back. -/
def read? (bytes : Bytes) : Option (RevocationList × Bytes) := do
  let (outer, rest) ← Der.Element.readTag? Der.Tag.sequence bytes
  let (signed, afterSigned) ← Der.Element.readTag? Der.Tag.sequence outer.content
  let (_, r) := optional Der.smallInteger? signed.content
  let (_, r) ← AlgorithmId.read? r
  let (issuer, r) ← Name.read? r
  let (thisUpdate, r) ← Time.read? r
  let (nextUpdate, r) ← readNextUpdate? r
  let (revoked, r) ← readRevoked? r
  let extensions ← Extension.readRest? 0 r
  let (algorithm, afterAlgorithm) ← AlgorithmId.read? afterSigned
  let (signature, _) ← Der.bitString? afterAlgorithm
  return ({ issuer, thisUpdate, nextUpdate, revoked, extensions,
            signedPart := signed.encoding, algorithm, signature }, rest)

/-- The revocation list at the front of a byte string. -/
def decode? (bytes : Bytes) : Option RevocationList :=
  (read? bytes).map (·.1)

/-- Whether the list names a serial number.  Numbers are compared without their signs. -/
def lists (l : RevocationList) (serial : Nat) : Bool :=
  l.revoked.any fun e => Bytes.toNat e.serial = serial

/-- Checks the signature of a list by a key. -/
def verify [CryptoLibrary] (l : RevocationList) (key : Bytes) : Except SignatureError Unit :=
  Signature.verify l.algorithm.algorithm.dotted l.signature.data l.signedPart key

end RevocationList

end SignerTrust
