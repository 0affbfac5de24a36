import SignerTrust.Certificate.Name

/-!
# General names

The alternative names of a subject and the locations of services are general names: mail addresses,
hosts, directories, links, or a name of some other kind with its own identifier.
-/

namespace SignerTrust

/-- A general name.  The kinds that nothing here reads keep their tag only. -/
inductive GeneralName
  | otherName (kind : Oid) (value : Bytes)
  | mail (text : String)
  | host (text : String)
  | directory (name : Name)
  | link (text : String)
  | opaqueName (tag : Nat)
  deriving DecidableEq, Repr

namespace GeneralName

/-- The general name that a tag and its content stand for. -/
def ofContent? (tag : Nat) (content : Bytes) : Option GeneralName :=
  match tag with
  | 0 => (Der.oid? content).map fun (kind, value) => .otherName kind value
  | 1 => (Utf8.decode? content).map .mail
  | 2 => (Utf8.decode? content).map .host
  | 4 => (Der.whole? Name.read? content).map .directory
  | 6 => (Utf8.decode? content).map .link
  | 3 | 5 | 7 | 8 => some (.opaqueName tag)
  | _ => none

/-- Reads one general name. -/
def read? (bytes : Bytes) : Option (GeneralName × Bytes) := do
  let (e, rest) ← Der.Element.read? bytes
  if e.tagClass = .contextSpecific then return (← ofContent? e.tag e.content, rest) else none

end GeneralName

end SignerTrust
