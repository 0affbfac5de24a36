import SignerTrust.Der.Reader

/-!
# Extensions

An extension has a name, a mark of whether a reader must understand it, and a value.  Lists of
extensions may name one twice; most readers then treat it as absent.
-/

namespace SignerTrust

/-- An extension of a certificate or of a revocation list. -/
structure Extension where
  name : Oid
  critical : Bool
  value : Bytes
  deriving DecidableEq, Repr

namespace Extension

/-- Reads a truth value of one byte. -/
def flag? (bytes : Bytes) : Option (Bool × Bytes) := do
  let (e, rest) ← Der.Element.readTag? Der.Tag.boolean bytes
  match e.constructed, e.content with
  | false, [b] => return (b ≠ 0, rest)
  | _, _ => none

/-- Reads one extension; its mark may be left out. -/
def read? : Bytes → Option (Extension × Bytes) :=
  Der.inside? Der.Tag.sequence fun content => do
    let (name, rest) ← Der.oid? content
    let (critical, rest) := (flag? rest).getD (false, rest)
    let (value, rest) ← Der.octets? rest
    return (⟨name, critical, value⟩, rest)

/-- Reads a sequence that holds extensions and nothing else. -/
def readList? (bytes : Bytes) : Option (List Extension × Bytes) := do
  let (e, rest) ← Der.Element.readTag? Der.Tag.sequence bytes
  return (← Der.all? read? e.content, rest)

/-- Reads what is left of a structure as its extensions, which follow an identifier of tag
`tag`; nothing left is no extensions. -/
def readRest? (tag : Nat) (bytes : Bytes) : Option (List Extension) :=
  if bytes.isEmpty then some []
  else do
    let (id, afterId) ← Der.identifier? bytes
    match ← Der.length? afterId with
    | (.indefinite, _) => none
    | (.definite _, body) => if id.tag = tag then Der.whole? readList? body else none

/-- The extensions of a name, spelled with just these bytes. -/
def named (name : Oid) (extensions : List Extension) : List Extension :=
  extensions.filter fun e => e.name = name

/-- The extension of a name, if there is exactly one. -/
def unique? (name : Oid) (extensions : List Extension) : Option Extension :=
  match named name extensions with
  | [e] => some e
  | _ => none

end Extension

end SignerTrust
