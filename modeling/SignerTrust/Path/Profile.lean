import SignerTrust.Path.AltName
import SignerTrust.Path.Link

/-!
# What extensions say

The profile of a link is what its extensions say about its use.  An extension that stands twice or
cannot be read leaves a link without a profile; such a link takes part in no path.
-/

namespace SignerTrust.Path

open Der Der.Grammar

/-- The key identifier, names and serial number by which a certificate points to its issuer. -/
structure IssuerHint where
  keyId : Option Bytes
  names : Option (List AltName)
  serial : Option Int
  deriving DecidableEq, Repr

/-- A subtree of names; only one from depth zero without an end is supported. -/
structure Subtree where
  base : AltName
  isWhole : Bool
  deriving DecidableEq, Repr

/-- The names that the certificates below may have, and those that they may not. -/
structure NameLimits where
  permitted : List Subtree
  excluded : List Subtree
  deriving DecidableEq, Repr

/-- Whether a certificate is one of an authority, and how many authorities may follow it. -/
structure BasicLimits where
  isAuthority : Bool
  pathLength : Option Nat
  deriving DecidableEq, Repr

/-- What the extensions of a link say. -/
structure Profile where
  basic : Option BasicLimits
  isProxy : Bool
  usage : Option Bytes
  legacyType : Option Bytes
  subjectKeyId : Option Bytes
  issuerHint : Option IssuerHint
  altNames : Option (List AltName)
  nameLimits : Option NameLimits
  deriving DecidableEq, Repr

/-! The extensions of a profile by dotted identifier. -/

namespace ExtensionId

def subjectKeyId : String := "2.5.29.14"
def usage : String := "2.5.29.15"
def altNames : String := "2.5.29.17"
def issuerAltNames : String := "2.5.29.18"
def basic : String := "2.5.29.19"
def nameLimits : String := "2.5.29.30"
def listPoints : String := "2.5.29.31"
def issuerHint : String := "2.5.29.35"
def purposes : String := "2.5.29.37"
def proxy : String := "1.3.6.1.5.5.7.1.14"
def legacyType : String := "2.16.840.1.113730.1.1"

/-- The extensions that may be critical. -/
def understood : List String :=
  [usage, altNames, basic, nameLimits, listPoints, purposes, proxy, legacyType, "2.5.29.32",
    "2.5.29.33", "2.5.29.36", "2.5.29.54", "1.3.6.1.5.5.7.1.7", "1.3.6.1.5.5.7.1.8",
    "1.3.6.1.5.5.7.48.1.5"]

end ExtensionId

namespace Profile

/-- The greatest path length that is told apart from none. -/
def maxPathLength : Int := 0x7fffffffffffffff

/-- Reads an extension of a name; the outer answer is missing if it stands twice or cannot be read,
the inner one if it is not there. -/
def part? {α : Type} (l : Link) (name : String) (item? : Bytes → Option (α × Bytes)) :
    Option (Option α) :=
  match l.extensions.filter fun e => e.name = name with
  | [] => some none
  | [e] => (item? e.value).map fun (x, _) => some x
  | _ :: _ :: _ => none

/-- Takes off a list of general names under a tag. -/
def names? (cls : TagClass) (tag : Nat) : Bytes → Option (List AltName × Bytes) :=
  structure? cls tag (items? AltName.read?)

/-- Takes off basic constraints; a negative path length refuses. -/
def basic? : Bytes → Option (BasicLimits × Bytes) :=
  sequence? fun content => do
    let (flag, rest) ← optional? .universal Tag.boolean flag? content
    let int := Grammar.integer? .universal Tag.integer
    let (length, rest) ← optional? .universal Tag.integer int rest
    let limits : BasicLimits :=
      ⟨flag.getD false, (length.filter (· ≤ maxPathLength)).map Int.toNat⟩
    if length.any fun n => decide (n < 0) then none else return (limits, rest)

/-- Takes off the policy of a proxy certificate. -/
def proxy? : Bytes → Option (Unit × Bytes) :=
  sequence? fun content => do
    let int := Grammar.integer? .universal Tag.integer
    let (_, rest) ← optional? .universal Tag.integer int content
    sequence? (fun policy => do
      let (_, rest) ← objectId? .universal Tag.objectId policy
      let octets := Grammar.octets? .universal Tag.octetString
      let (_, rest) ← optional? .universal Tag.octetString octets rest
      return ((), rest)) rest

/-- Takes off a pointer to the issuer. -/
def issuerHint? : Bytes → Option (IssuerHint × Bytes) :=
  sequence? fun content => do
    let cls := TagClass.contextSpecific
    let (keyId, rest) ← optional? cls 0 (Grammar.octets? cls 0) content
    let (names, rest) ← optional? cls 1 (names? cls 1) rest
    let (serial, rest) ← optional? cls 2 (Grammar.integer? cls 2) rest
    return (⟨keyId, names, serial⟩, rest)

/-- Takes off a subtree. -/
def subtree? : Bytes → Option (Subtree × Bytes) :=
  sequence? fun content => do
    let cls := TagClass.contextSpecific
    let (base, rest) ← AltName.read? content
    let (least, rest) ← optional? cls 0 (Grammar.integer? cls 0) rest
    let (greatest, rest) ← optional? cls 1 (Grammar.integer? cls 1) rest
    return (⟨base, greatest.isNone && least.all (· = 0)⟩, rest)

/-- Takes off the limits on names. -/
def nameLimits? : Bytes → Option (NameLimits × Bytes) :=
  sequence? fun content => do
    let cls := TagClass.contextSpecific
    let (permitted, rest) ← optional? cls 0 (structure? cls 0 (items? subtree?)) content
    let (excluded, rest) ← optional? cls 1 (structure? cls 1 (items? subtree?)) rest
    return (⟨permitted.getD [], excluded.getD []⟩, rest)

/-- Takes off the location of a point: full names, or attributes below the issuer. -/
def location? (bytes : Bytes) : Option (Unit × Bytes) := do
  let (id, _) ← identifier? bytes
  let cls := TagClass.contextSpecific
  if id.tag = 0 then (names? cls 0 bytes).map fun (_, rest) => ((), rest)
  else (structure? cls 1 (items? NameEntry.read?) bytes).map fun (_, rest) => ((), rest)

/-- Takes off a distribution point, which names a location or an issuer. -/
def listPoint? : Bytes → Option (Unit × Bytes) :=
  sequence? fun content => do
    let cls := TagClass.contextSpecific
    let (location, rest) ← optional? cls 0 (structure? cls 0 location?) content
    let (_, rest) ← optional? cls 1 (bits? cls 1) rest
    let (issuer, rest) ← optional? cls 2 (names? cls 2) rest
    if location.isNone ∧ issuer.all List.isEmpty then none else return ((), rest)

/-- Whether a link has an extension of a name. -/
def has (l : Link) (name : String) : Bool :=
  l.extensions.any fun e => e.name = name

/-- Takes off the purposes of a key. -/
def purposes? : Bytes → Option (List Oid × Bytes) :=
  sequence? (items? (objectId? .universal Tag.objectId))

/-- The first two bytes of a usage; a usage that allows nothing refuses. -/
def usage? (bytes : Bytes) : Option (Bytes × Bytes) := do
  let (b, rest) ← bits? .universal Tag.bitString bytes
  if (b.data.take 2).all (· = 0) then none else return (b.data, rest)

/-- Takes off bits, without the count of unused ones. -/
def bitData? (bytes : Bytes) : Option (Bytes × Bytes) :=
  (bits? .universal Tag.bitString bytes).map fun (b, rest) => (b.data, rest)

/-- The profile of a link. -/
def ofLink? (l : Link) : Option Profile := do
  let basic ← part? l ExtensionId.basic basic?
  let proxy ← part? l ExtensionId.proxy proxy?
  let usage ← part? l ExtensionId.usage usage?
  let _ ← part? l ExtensionId.purposes purposes?
  let legacyType ← part? l ExtensionId.legacyType bitData?
  let keyId := Grammar.octets? .universal Tag.octetString
  let subjectKeyId ← part? l ExtensionId.subjectKeyId keyId
  let issuerHint ← part? l ExtensionId.issuerHint issuerHint?
  let altNames ← part? l ExtensionId.altNames (names? .universal Tag.sequence)
  let nameLimits ← part? l ExtensionId.nameLimits nameLimits?
  let _ ← part? l ExtensionId.listPoints (sequence? (items? listPoint?))
  let isAuthority := (basic.map (·.isAuthority)).getD false
  if proxy.isSome ∧ (isAuthority ∨ has l ExtensionId.altNames ∨ has l ExtensionId.issuerAltNames)
  then none
  else return { basic, isProxy := proxy.isSome, usage, legacyType, subjectKeyId, issuerHint,
                altNames, nameLimits }

/-- Whether the extension says that this is an authority. -/
def isAuthority (p : Profile) : Bool :=
  (p.basic.map (·.isAuthority)).getD false

/-- The limit on the number of authorities that follow. -/
def pathLength (p : Profile) : Option Nat :=
  p.basic.bind (·.pathLength)

/-- Whether the usage has a bit of its first byte. -/
def allows (p : Profile) (bit : Nat) : Bool :=
  (p.usage.bind (·.head?)).any fun b => b.toNat / bit % 2 = 1

/-- The bits for signing certificates and for signing revocation lists. -/
def certificateSigning : Nat := 4
def listSigning : Nat := 2

end Profile

/-- The names and extensions that say which certificate issued which. -/
structure Member where
  link : Link
  profile : Profile
  deriving DecidableEq, Repr

/-- A link with its profile. -/
def Member.ofLink? (l : Link) : Option Member :=
  (Profile.ofLink? l).map fun profile => ⟨l, profile⟩

end SignerTrust.Path
