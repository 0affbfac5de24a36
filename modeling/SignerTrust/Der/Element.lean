import SignerTrust.Bytes

/-!
# Encoded elements

An element is a tag, a length and that many bytes of content.  Reading takes one element off the
front of a byte string and hands back the rest.  Lengths must be definite and may use more bytes
than they need; the readers above decide which tags they accept and what may follow.
-/

namespace SignerTrust.Der

/-- The class of a tag. -/
inductive TagClass
  | universal
  | application
  | contextSpecific
  | reserved
  deriving DecidableEq, Repr

/-- The class that the two high bits of an identifier byte name. -/
def TagClass.ofBits (n : Nat) : TagClass :=
  if n = 0 then .universal
  else if n = 1 then .application
  else if n = 2 then .contextSpecific
  else .reserved

/-- What stands before the length of an element. -/
structure Identifier where
  tagClass : TagClass
  constructed : Bool
  tag : Nat
  deriving DecidableEq, Repr

/-- One element, with the bytes it was read from. -/
structure Element where
  tagClass : TagClass
  constructed : Bool
  tag : Nat
  content : Bytes
  encoding : Bytes
  deriving DecidableEq, Repr

/-! The numbers of the universal tags that the readers use. -/

namespace Tag

def boolean : Nat := 1
def integer : Nat := 2
def bitString : Nat := 3
def octetString : Nat := 4
def null : Nat := 5
def objectId : Nat := 6
def enumerated : Nat := 10
def utf8String : Nat := 12
def sequence : Nat := 16
def set : Nat := 17
def numericString : Nat := 18
def printableString : Nat := 19
def teletexString : Nat := 20
def ia5String : Nat := 22
def utcTime : Nat := 23
def generalizedTime : Nat := 24
def visibleString : Nat := 26
def universalString : Nat := 28
def bmpString : Nat := 30

end Tag

/-- Takes `n` bytes off the front, if there are so many. -/
def take? (n : Nat) (bytes : Bytes) : Option (Bytes × Bytes) :=
  if n ≤ bytes.length then some (bytes.take n, bytes.drop n) else none

/-- A tag number in base 128, most significant digit first; at most `fuel` digits are read. -/
def highTag? : (fuel : Nat) → Nat → Bytes → Option (Nat × Bytes)
  | 0, _, _ => none
  | _ + 1, _, [] => none
  | fuel + 1, n, b :: rest =>
    let n := (n * 128 + b.toNat % 128) % UInt32.size
    if b < 0x80 then some (n, rest) else highTag? fuel n rest

/-- Reads the identifier; a number of 31 or more follows its first byte in at most five. -/
def identifier? : Bytes → Option (Identifier × Bytes)
  | [] => none
  | b :: rest =>
    let cls := TagClass.ofBits (b.toNat / 64)
    let constructed := b.toNat / 32 % 2 = 1
    let low := b.toNat % 32
    if low = 31 then
      (highTag? 5 0 rest).map fun (n, rest) => (⟨cls, constructed, n⟩, rest)
    else some (⟨cls, constructed, low⟩, rest)

/-- A length: a number of bytes, or open until an end mark. -/
inductive Length
  | definite (n : Nat)
  | indefinite
  deriving DecidableEq, Repr

/-- Reads a length; one that needs more than 64 bits, or starts with `0xff`, is refused. -/
def length? : Bytes → Option (Length × Bytes)
  | [] => none
  | b :: rest =>
    if b < 0x80 then some (.definite b.toNat, rest)
    else if b = 0x80 then some (.indefinite, rest)
    else if b = 0xff then none
    else do
      let (digits, rest) ← take? (b.toNat - 128) rest
      let n := Bytes.toNat digits
      if n < UInt64.size then some (.definite n, rest) else none

namespace Element

/-- Takes the first element of definite length off the front. -/
def read? (bytes : Bytes) : Option (Element × Bytes) := do
  let (id, afterId) ← identifier? bytes
  match ← length? afterId with
  | (.indefinite, _) => none
  | (.definite n, body) =>
    let (content, rest) ← take? n body
    let encoding := bytes.take (bytes.length - rest.length)
    some (⟨id.tagClass, id.constructed, id.tag, content, encoding⟩, rest)

/-- Whether the element has the universal tag `n`. -/
def isUniversal (e : Element) (n : Nat) : Bool :=
  e.tagClass = .universal && e.tag = n

/-- Whether the element has the context-specific tag `n`. -/
def isContext (e : Element) (n : Nat) : Bool :=
  e.tagClass = .contextSpecific && e.tag = n

/-- The first element, if its tag number is `n`, whatever its class. -/
def readTag? (n : Nat) (bytes : Bytes) : Option (Element × Bytes) := do
  let (e, rest) ← read? bytes
  if e.tag = n then some (e, rest) else none

end Element

/-- Repeats a reader until it refuses or stops moving, and hands back what it could not read. -/
def many {α : Type} (item? : Bytes → Option (α × Bytes)) (bytes : Bytes) : List α × Bytes :=
  go bytes.length bytes
where
  go : Nat → Bytes → List α × Bytes
    | 0, bytes => ([], bytes)
    | fuel + 1, bytes =>
      match item? bytes with
      | none => ([], bytes)
      | some (x, rest) =>
        let (xs, left) := go fuel rest
        (x :: xs, left)

/-- Repeats a reader up to the end of the input; a part that it refuses refuses the whole. -/
def all? {α : Type} (item? : Bytes → Option (α × Bytes)) (bytes : Bytes) : Option (List α) :=
  match many item? bytes with
  | (xs, []) => some xs
  | (_, _ :: _) => none

/-- The shortest length field for `n` bytes of content. -/
def encodeLength (n : Nat) : Bytes :=
  if n < 128 then [UInt8.ofNat n]
  else
    let digits := Bytes.ofNatMinimal n
    UInt8.ofNat (128 + digits.length) :: digits

/-- Writes an element whose identifier is the single byte `id`. -/
def encode (id : UInt8) (content : Bytes) : Bytes :=
  id :: encodeLength content.length ++ content

end SignerTrust.Der
