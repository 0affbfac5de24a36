import SignerTrust.Der.Reader

/-!
# Reading by the letter

Public keys and the certificates of a path are read by the letter of their grammar: tags have their
class, number and form, structures are used up, optional parts are told by their tag, and the
content of every value is checked by its type.  How something is encoded counts for less: lengths
may use more bytes than they need, structures may be open and close at an end mark, texts and bits
may come in pieces, and bytes after a value that stands alone are let be.
-/

namespace SignerTrust.Der.Grammar

/-- Whether an end mark comes next. -/
def isEnd (bytes : Bytes) : Bool :=
  bytes.take 2 = [0, 0]

/-- What follows the end mark that closes the outermost of `levels` open elements. -/
def afterEnd? : (fuel : Nat) → (levels : Nat) → Bytes → Option Bytes
  | 0, _, _ => none
  | fuel + 1, levels, bytes =>
    if isEnd bytes then
      if levels ≤ 1 then some (bytes.drop 2) else afterEnd? fuel (levels - 1) (bytes.drop 2)
    else do
      let (id, afterId) ← identifier? bytes
      match ← length? afterId with
      | (.definite n, body) =>
        let (_, rest) ← take? n body
        afterEnd? fuel levels rest
      | (.indefinite, body) => if id.constructed then afterEnd? fuel (levels + 1) body else none

/-- Takes off an element; the end mark of an open one is no part of its content, and an end mark
is no element.  A length with nothing after it must be a single zero. -/
def next? (bytes : Bytes) : Option (Element × Bytes) := do
  guard (!isEnd bytes)
  let (id, afterId) ← identifier? bytes
  let (content, rest) ←
    match ← length? afterId with
    | (.definite n, body) => if body.isEmpty ∧ afterId ≠ [0] then none else take? n body
    | (.indefinite, body) =>
      if id.constructed then
        (afterEnd? body.length 1 body).map fun rest =>
          (body.take (body.length - rest.length - 2), rest)
      else none
  let encoding := bytes.take (bytes.length - rest.length)
  return (⟨id.tagClass, id.constructed, id.tag, content, encoding⟩, rest)

/-- How deeply pieces may be nested. -/
def maxPieceDepth : Nat := 6

/-- Joins pieces, which may come in pieces themselves.  Their tags do not count. -/
def join? : (depth : Nat) → Bytes → Option Bytes
  | 0, _ => none
  | depth + 1, bytes => do
    let elements ← all? next? bytes
    let pieces ← elements.mapM fun e =>
      if e.constructed then join? depth e.content else some e.content
    return pieces.flatten

/-- The content of an element that may come in pieces. -/
def joined? (e : Element) : Option Bytes :=
  if e.constructed then join? maxPieceDepth e.content else some e.content

/-- Takes off an element of a class and a number. -/
def tagged? (cls : TagClass) (tag : Nat) (bytes : Bytes) : Option (Element × Bytes) := do
  let (e, rest) ← next? bytes
  if e.tagClass = cls ∧ e.tag = tag then some (e, rest) else none

/-- Takes off an element of a class, a number and a form. -/
def element? (cls : TagClass) (tag : Nat) (constructed : Bool) (bytes : Bytes) :
    Option (Element × Bytes) := do
  let (e, rest) ← tagged? cls tag bytes
  if e.constructed = constructed then some (e, rest) else none

/-- Takes off a structure whose content a reader uses up. -/
def structure? {α : Type} (cls : TagClass) (tag : Nat) (content? : Bytes → Option (α × Bytes))
    (bytes : Bytes) : Option (α × Bytes) := do
  let (e, rest) ← element? cls tag true bytes
  return (← Der.whole? content? e.content, rest)

/-- Takes off a sequence whose content a reader uses up. -/
def sequence? {α : Type} (content? : Bytes → Option (α × Bytes)) : Bytes → Option (α × Bytes) :=
  structure? .universal Tag.sequence content?

/-- Reads like items to the end. -/
def items? {α : Type} (item? : Bytes → Option (α × Bytes)) (bytes : Bytes) :
    Option (List α × Bytes) :=
  (all? item? bytes).map fun xs => (xs, [])

/-- Reads a part that may be left out: it is there if the next element has its class and number. -/
def optional? {α : Type} (cls : TagClass) (tag : Nat) (item? : Bytes → Option (α × Bytes))
    (bytes : Bytes) : Option (Option α × Bytes) :=
  match identifier? bytes with
  | some (id, _) =>
    if id.tagClass = cls ∧ id.tag = tag then (item? bytes).map fun (x, rest) => (some x, rest)
    else some (none, bytes)
  | none => if bytes.isEmpty then some (none, bytes) else none

/-- The number of a content in two's complement, which has no byte too many. -/
def number? (content : Bytes) : Option Int :=
  match content with
  | [] => none
  | b :: rest =>
    if !isMinimalInteger content then none
    else if b < 0x80 then some (Bytes.toNat content)
    else some ((Bytes.toNat content : Int) - (1 <<< (8 * (rest.length + 1)) : Nat))

/-- Takes off a number under a tag. -/
def integer? (cls : TagClass) (tag : Nat) (bytes : Bytes) : Option (Int × Bytes) := do
  let (e, rest) ← element? cls tag false bytes
  return (← number? e.content, rest)

/-- Whether a content is that of an object identifier: complete, and without leading zeros. -/
def isObjectId (content : Bytes) : Bool :=
  (content.getLast?.any fun b => decide (b < 0x80)) && go true content
where
  go : Bool → Bytes → Bool
    | _, [] => true
    | first, b :: rest => !(first && b = 0x80) && go (decide (b < 0x80)) rest

/-- Takes off an object identifier under a tag. -/
def objectId? (cls : TagClass) (tag : Nat) (bytes : Bytes) : Option (Oid × Bytes) := do
  let (e, rest) ← element? cls tag false bytes
  if isObjectId e.content then return (⟨e.content⟩, rest) else none

/-- The bits of a content; unused bits of the last byte count as zero. -/
def bitsOf? : Bytes → Option BitString
  | [] => none
  | unused :: data =>
    if 7 < unused then none
    else match data.getLast? with
      | none => some ⟨unused.toNat, []⟩
      | some last =>
        let u := unused.toNat
        some ⟨u, data.dropLast ++ [UInt8.ofNat (last.toNat >>> u <<< u)]⟩

/-- Takes off bits under a tag. -/
def bits? (cls : TagClass) (tag : Nat) (bytes : Bytes) : Option (BitString × Bytes) := do
  let (e, rest) ← tagged? cls tag bytes
  return (← bitsOf? (← joined? e), rest)

/-- Takes off bytes under a tag. -/
def octets? (cls : TagClass) (tag : Nat) (bytes : Bytes) : Option (Bytes × Bytes) := do
  let (e, rest) ← tagged? cls tag bytes
  return (← joined? e, rest)

/-- Takes off a truth value; every byte but zero is true. -/
def flag? (bytes : Bytes) : Option (Bool × Bytes) := do
  let (e, rest) ← element? .universal Tag.boolean false bytes
  match e.content with
  | [b] => return (b ≠ 0, rest)
  | _ => none

/-- Least lengths of the contents of times with two and with four digits for the year. -/
def shortTimeLength : Nat := 13
def longTimeLength : Nat := 15

/-- Whether an element is of a type that is kept as it is encoded: a structure, or one of another
class. -/
def isKept (e : Element) : Bool :=
  e.tagClass ≠ .universal || e.tag = Tag.sequence || e.tag = Tag.set

/-- The universal tags of values that never come in pieces. -/
def undivided : List Nat :=
  [Tag.boolean, Tag.integer, Tag.null, Tag.objectId, Tag.enumerated]

/-- Whether a content fits the type of a universal tag. -/
def isSound (tag : Nat) (content : Bytes) : Bool :=
  if tag = Tag.boolean then content.length = 1
  else if tag = Tag.integer ∨ tag = Tag.enumerated then (number? content).isSome
  else if tag = Tag.bitString then (bitsOf? content).isSome
  else if tag = Tag.null then content.isEmpty
  else if tag = Tag.objectId then isObjectId content
  else if tag = Tag.utcTime then shortTimeLength ≤ content.length
  else if tag = Tag.generalizedTime then longTimeLength ≤ content.length
  else if tag = Tag.universalString then content.length % 4 = 0
  else if tag = Tag.bmpString then content.length % 2 = 0
  else true

/-- Takes off an element of any type, its pieces joined. -/
def value? (bytes : Bytes) : Option (Element × Bytes) := do
  let (e, rest) ← next? bytes
  if isKept e then
    if e.tagClass = .universal ∧ !e.constructed then none else some (e, rest)
  else if e.constructed ∧ undivided.contains e.tag then none
  else
    let content ← joined? e
    if isSound e.tag content then some ({ e with constructed := false, content }, rest) else none

end SignerTrust.Der.Grammar
