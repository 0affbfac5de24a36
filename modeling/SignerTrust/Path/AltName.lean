import SignerTrust.Path.Name

/-!
# Alternative names

The general names of a path's certificates, as far as constraints on names look at them.
-/

namespace SignerTrust.Path

open Der Der.Grammar

/-- A general name. -/
inductive AltName
  | other (kind : Oid)
  | mail (text : Bytes)
  | host (text : Bytes)
  | directory (name : ComparableName)
  | link (text : Bytes)
  | address (bytes : Bytes)
  | opaqueName (tag : Nat)
  deriving DecidableEq, Repr

namespace AltName

/-- The kind of a general name, as the number of its tag. -/
def kind : AltName → Nat
  | other _ => 0
  | mail _ => 1
  | host _ => 2
  | directory _ => 4
  | link _ => 6
  | address _ => 7
  | opaqueName tag => tag

/-- Takes off a text of one of the directory's types. -/
def directoryText? (bytes : Bytes) : Option (Element × Bytes) := do
  let (e, rest) ← value? bytes
  if e.tagClass = .universal ∧ e.tag ∈ [Tag.printableString, Tag.teletexString, Tag.bmpString,
      Tag.universalString, Tag.utf8String] then return (e, rest)
  else none

/-- Takes off the parts of a name of some other kind. -/
def otherParts? (content : Bytes) : Option (Oid × Bytes) := do
  let (kind, rest) ← objectId? .universal Tag.objectId content
  let (_, rest) ← structure? .contextSpecific 0 value? rest
  return (kind, rest)

/-- Takes off the parts of a name that a party assigned. -/
def partyParts? (content : Bytes) : Option (Unit × Bytes) := do
  let cls := TagClass.contextSpecific
  let (_, rest) ← optional? cls 0 (structure? cls 0 directoryText?) content
  let (_, rest) ← structure? cls 1 directoryText? rest
  return ((), rest)

/-- Takes off a general name. -/
def read? (bytes : Bytes) : Option (AltName × Bytes) := do
  let (id, _) ← identifier? bytes
  let cls := TagClass.contextSpecific
  if id.tagClass ≠ cls then none
  else match id.tag with
    | 0 => (structure? cls 0 otherParts? bytes).map fun (kind, rest) => (.other kind, rest)
    | 1 => (Grammar.octets? cls 1 bytes).map fun (text, rest) => (.mail text, rest)
    | 2 => (Grammar.octets? cls 2 bytes).map fun (text, rest) => (.host text, rest)
    | 3 => (element? cls 3 true bytes).map fun (_, rest) => (.opaqueName 3, rest)
    | 4 => (structure? cls 4 ComparableName.read? bytes).map fun (n, rest) => (.directory n, rest)
    | 5 => (structure? cls 5 partyParts? bytes).map fun (_, rest) => (.opaqueName 5, rest)
    | 6 => (Grammar.octets? cls 6 bytes).map fun (text, rest) => (.link text, rest)
    | 7 => (Grammar.octets? cls 7 bytes).map fun (b, rest) => (.address b, rest)
    | 8 => (objectId? cls 8 bytes).map fun (_, rest) => (.opaqueName 8, rest)
    | _ => none

end AltName

end SignerTrust.Path
