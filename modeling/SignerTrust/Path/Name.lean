import SignerTrust.Der.Grammar
import SignerTrust.Text.Utf8

/-!
# Names in comparable form

Two names are the same if they have the same comparable form: texts of all kinds as UTF-8, letters
of ASCII in lower case, blanks at the ends dropped and runs of blanks drawn together.  A subtree of
names is told by the start of that form.
-/

namespace SignerTrust.Path

open Der Der.Grammar

/-- An attribute of a name. -/
structure NameEntry where
  kind : Oid
  value : Element
  deriving DecidableEq, Repr

/-- A name: its sets of attributes, and its comparable form. -/
structure ComparableName where
  sets : List (List NameEntry)
  form : Bytes
  deriving DecidableEq, Repr

namespace NameEntry

/-- The universal tags that an attribute's value may have. -/
def valueTags : List Nat :=
  [3, 7, 8, 9, 11, 12, 13, 14, 15, 16, 18, 19, 20, 22, 28, 29, 30, 31]

/-- Takes off an attribute. -/
def read? : Bytes → Option (NameEntry × Bytes) :=
  sequence? fun content => do
    let (kind, rest) ← objectId? .universal Tag.objectId content
    let (value, rest) ← value? rest
    if value.tagClass = .universal ∧ value.tag ∈ valueTags then return (⟨kind, value⟩, rest)
    else none

/-- The characters of big-endian units of `width` bytes; a surrogate is no character. -/
def unitChars? (width : Nat) (bytes : Bytes) : Option (List Char) :=
  go bytes.length bytes
where
  go : Nat → Bytes → Option (List Char)
    | _, [] => some []
    | 0, _ :: _ => none
    | fuel + 1, b :: bs => do
      let c ← Utf8.scalar? 0 (Bytes.toNat ((b :: bs).take width))
      return c :: (← go fuel ((b :: bs).drop width))

/-- The text of a value as UTF-8, if its type is that of a text. -/
def utf8? (tag : Nat) (content : Bytes) : Option Bytes :=
  if tag = Tag.utf8String then if Utf8.isText content then some content else none
  else if tag = Tag.bmpString then (unitChars? 2 content).map Utf8.encodeChars
  else if tag = Tag.universalString then (unitChars? 4 content).map Utf8.encodeChars
  else if tag = Tag.printableString ∨ tag = Tag.teletexString ∨ tag = Tag.ia5String
      ∨ tag = Tag.numericString then
    (unitChars? 1 content).map Utf8.encodeChars
  else none

/-- Whether a byte is a blank. -/
def isBlank (b : UInt8) : Bool :=
  b = 0x20 || (0x09 ≤ b && b ≤ 0x0d)

/-- Writes letters in lower case and one space for each run of blanks. -/
def fold : Bytes → Bytes
  | [] => []
  | b :: rest =>
    if isBlank b then
      match rest with
      | [] => [0x20]
      | c :: _ => if isBlank c then fold rest else 0x20 :: fold rest
    else Bytes.lowerByte b :: fold rest

/-- The text without blanks at its ends, folded. -/
def foldTrimmed (text : Bytes) : Bytes :=
  fold ((text.dropWhile isBlank).reverse.dropWhile isBlank).reverse

/-- The comparable form of a value; one that is no text is taken as it is, and so are digits. -/
def valueForm? (e : Element) : Option Bytes :=
  if e.tag ∈ [Tag.utf8String, Tag.bmpString, Tag.universalString, Tag.printableString,
      Tag.teletexString, Tag.ia5String] then
    (utf8? e.tag e.content).map fun text => Der.encode 0x0c (foldTrimmed text)
  else if isKept e then some e.encoding
  else if e.tag = Tag.bitString then
    (bitsOf? e.content).map fun b =>
      Der.encode 0x03 (UInt8.ofNat (if b.data.isEmpty then 0 else b.unused) :: b.data)
  else some (Der.encode (UInt8.ofNat e.tag) e.content)

/-- The comparable form of an attribute. -/
def form? (a : NameEntry) : Option Bytes :=
  (valueForm? a.value).map fun v => Der.encode 0x30 (Der.encode 0x06 a.kind.content ++ v)

end NameEntry

namespace ComparableName

/-- The order of byte strings: by the first byte that differs, a start before the whole. -/
def precedes : Bytes → Bytes → Bool
  | [], _ => true
  | _ :: _, [] => false
  | a :: as, b :: bs => if a = b then precedes as bs else decide (a < b)

/-- The comparable form of a set of attributes, which are put in order; an empty set has none. -/
def setForm? (set : List NameEntry) : Option Bytes :=
  if set.isEmpty then some []
  else (set.mapM NameEntry.form?).map fun forms =>
    Der.encode 0x31 (forms.mergeSort precedes).flatten

/-- The name of given sets, if their texts can be read. -/
def ofSets? (sets : List (List NameEntry)) : Option ComparableName :=
  (sets.mapM setForm?).map fun forms => ⟨sets, forms.flatten⟩

/-- Takes off a name. -/
def read? (bytes : Bytes) : Option (ComparableName × Bytes) := do
  let (sets, rest) ←
    sequence? (items? (structure? .universal Tag.set (items? NameEntry.read?))) bytes
  return (← ofSets? sets, rest)

/-- All attributes, outermost set first. -/
def entries (n : ComparableName) : List NameEntry :=
  n.sets.flatten

/-- Whether the name has no attribute. -/
def isEmpty (n : ComparableName) : Bool :=
  n.entries.isEmpty

/-- Whether two names are the same. -/
def same (a b : ComparableName) : Bool :=
  a.form = b.form

/-- The values of the attributes of a kind. -/
def valuesOf (n : ComparableName) (kind : String) : List Element :=
  (n.entries.filter fun a => a.kind.dotted = kind).map (·.value)

end ComparableName

end SignerTrust.Path
