import SignerTrust.Der.Reader
import SignerTrust.Text.Utf8

/-!
# Distinguished names

A name is a sequence of sets of attributes.  Its text lists the attributes by abbreviation: sets
are parted by commas, attributes of one set by plus signs.
-/

namespace SignerTrust

/-- An attribute of a name: its kind and its value, undecoded. -/
structure Attribute where
  kind : Oid
  value : Der.Element
  deriving DecidableEq, Repr

/-- A distinguished name, outermost set first. -/
structure Name where
  sets : List (List Attribute)
  deriving DecidableEq, Repr

namespace Attribute

/-- Reads one attribute. -/
def read? : Bytes → Option (Attribute × Bytes) :=
  Der.inside? Der.Tag.sequence fun content => do
    let (kind, rest) ← Der.oid? content
    let (value, rest) ← Der.Element.read? rest
    return (⟨kind, value⟩, rest)

/-- The abbreviations of attribute kinds, by dotted identifier. -/
def abbreviations : List (String × String) := [
  ("2.5.4.3", "CN"), ("2.5.4.6", "C"), ("2.5.4.7", "L"), ("2.5.4.8", "ST"), ("2.5.4.10", "O"),
  ("2.5.4.11", "OU"), ("0.9.2342.19200300.100.1.25", "DC"), ("1.2.840.113549.1.9.1", "Email"),
  ("2.5.4.0", "objectClass"), ("2.5.4.1", "aliasedEntryName"), ("2.5.4.2", "knowledgeInformation"),
  ("2.5.4.4", "surname"), ("2.5.4.5", "serialNumber"), ("2.5.4.9", "streetAddress"),
  ("2.5.4.12", "title"), ("2.5.4.13", "description"), ("2.5.4.14", "searchGuide"),
  ("2.5.4.15", "businessCategory"), ("2.5.4.16", "postalAddress"), ("2.5.4.17", "postalCode"),
  ("2.5.4.41", "name"), ("2.5.4.42", "givenName"), ("2.5.4.43", "initials"),
  ("2.5.4.44", "generationQualifier"), ("2.5.4.45", "uniqueIdentifier"),
  ("2.5.4.46", "dnQualifier"),
  ("0.9.2342.19200300.100.1.1", "userId"), ("1.2.840.113549.1.9.2", "unstructuredName"),
  ("1.2.840.113549.1.9.3", "contentType"), ("1.2.840.113549.1.9.4", "messageDigest"),
  ("1.2.840.113549.1.9.5", "signingTime"), ("1.2.840.113549.1.9.7", "challengePassword"),
  ("1.2.840.113549.1.9.14", "extensionRequest"), ("1.2.840.113549.1.9.15", "smimeCapabilities")]

/-- How the kind is shown. -/
def label (a : Attribute) : String :=
  let id := a.kind.dotted
  match abbreviations.lookup id with
  | some short => short
  | none => "OID(" ++ id ++ ")"

/-- Universal tags whose content is shown as text. -/
def textTags : List Nat := [18, 19, 20, 21, 22, 7, 12, 25, 26, 27]

/-- Big-endian units of two bytes; an odd last byte is a unit of its own. -/
def units16 : Bytes → List Nat
  | [] => []
  | [b] => [b.toNat]
  | hi :: lo :: rest => (hi.toNat * 256 + lo.toNat) :: units16 rest

/-- Joins surrogate pairs; a surrogate without its partner refuses. -/
def ofUnits16? : List Nat → Option (List Char)
  | [] => some []
  | u :: v :: rest =>
    if u < 0xd800 ∨ 0xe000 ≤ u then (ofUnits16? (v :: rest)).map (Char.ofNat u :: ·)
    else if u < 0xdc00 ∧ 0xdc00 ≤ v ∧ v < 0xe000 then
      (ofUnits16? rest).map (Char.ofNat (0x10000 + (u - 0xd800) * 1024 + (v - 0xdc00)) :: ·)
    else none
  | [u] => if u < 0xd800 ∨ 0xe000 ≤ u then some [Char.ofNat u] else none

/-- Upper-case hexadecimal. -/
def hexUpper (bytes : Bytes) : String :=
  String.ofList ((bytes.flatMap Bytes.hexPair).map Char.toUpper)

/-- How the value is shown: texts as they are, the rest as hexadecimal.  A text that is not one
refuses. -/
def valueText? (a : Attribute) : Option String :=
  if a.value.tag ∈ textTags then Utf8.decode? a.value.content
  else if a.value.tag = Der.Tag.bmpString then
    (ofUnits16? (units16 a.value.content)).map String.ofList
  else some (hexUpper a.value.content)

/-- The attribute as `kind=value`. -/
def text? (a : Attribute) : Option String :=
  a.valueText?.map fun v => a.label ++ "=" ++ v

end Attribute

namespace Name

/-- Reads a name; sets after the first unreadable one are dropped. -/
def read? : Bytes → Option (Name × Bytes) :=
  Der.inside? Der.Tag.sequence fun content =>
    let (sets, rest) := Der.many (Der.inside? Der.Tag.set (Der.many1? Attribute.read?)) content
    some (⟨sets⟩, rest)

/-- The text of the name, or a mark that it has none. -/
def text (name : Name) : String :=
  match name.sets.mapM (fun set => (set.mapM Attribute.text?).map (" + ".intercalate ·)) with
  | some sets => ", ".intercalate sets
  | none => "<X509Error: Invalid X.509 name>"

end Name

end SignerTrust
