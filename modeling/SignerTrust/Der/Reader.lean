import SignerTrust.Calendar
import SignerTrust.Oid

/-!
# Reading structures

The reader of certificates and revocation lists is a tolerant one: it looks at tag numbers and
seldom at classes, lets a sequence end before its bytes do, and takes any primitive element for an
object identifier.  Each reader here takes one structure off the front of a byte string.
-/

namespace SignerTrust.Der

/-- Reads an element of tag number `tag` and then its content; what the content leaves over is
dropped. -/
def inside? {α : Type} (tag : Nat) (content? : Bytes → Option (α × Bytes)) (bytes : Bytes) :
    Option (α × Bytes) := do
  let (e, rest) ← Element.readTag? tag bytes
  let (x, _) ← content? e.content
  return (x, rest)

/-- Reads `item?` from a whole byte string, which it must use up. -/
def whole? {α : Type} (item? : Bytes → Option (α × Bytes)) (bytes : Bytes) : Option α :=
  match item? bytes with
  | some (x, []) => some x
  | _ => none

/-- Reads at least one item, as many as there are. -/
def many1? {α : Type} (item? : Bytes → Option (α × Bytes)) (bytes : Bytes) :
    Option (List α × Bytes) :=
  match many item? bytes with
  | ([], _) => none
  | (x :: xs, rest) => some (x :: xs, rest)

/-- Whether the first element is cut short: its header or its content is not all there. -/
def isCutShort (bytes : Bytes) : Bool :=
  match identifier? bytes with
  | none => true
  | some (_, afterId) =>
    match length? afterId with
    | some (.definite n, body) => decide (body.length < n)
    | some (.indefinite, _) => false
    | none => afterId.head? ≠ some 0xff

/-- Reads any primitive element as an object identifier. -/
def oid? (bytes : Bytes) : Option (Oid × Bytes) := do
  let (e, rest) ← Element.read? bytes
  if e.constructed then none else return (⟨e.content⟩, rest)

/-- Whether an integer content is written with no byte too many. -/
def isMinimalInteger : Bytes → Bool
  | [] => false
  | [_] => true
  | a :: b :: _ => !(a = 0 && b < 0x80) && !(a = 0xff && 0x80 ≤ b)

/-- Reads a non-negative integer below `2 ^ 32`. -/
def smallInteger? (bytes : Bytes) : Option (Nat × Bytes) := do
  let (e, rest) ← Element.readTag? Tag.integer bytes
  let first ← e.content.head?
  let n := Bytes.toNat e.content
  if !e.constructed && isMinimalInteger e.content && first < 0x80 && n < UInt32.size then
    return (n, rest)
  else none

/-- Reads a primitive octet string. -/
def octets? (bytes : Bytes) : Option (Bytes × Bytes) := do
  let (e, rest) ← Element.readTag? Tag.octetString bytes
  if e.constructed then none else return (e.content, rest)

/-- Bits, the last byte of which may have unused ones. -/
structure BitString where
  unused : Nat
  data : Bytes
  deriving DecidableEq, Repr

/-- The number of zero bits at the low end of a byte. -/
def trailingZeros (b : UInt8) : Nat :=
  ((List.range 8).find? fun i => b.toNat.testBit i).getD 8

/-- The bits that a content holds: its first byte counts the unused ones, which must be zero. -/
def BitString.ofContent? : Bytes → Option BitString
  | [] => none
  | u :: data =>
    match data.getLast? with
    | none => if u = 0 then some ⟨0, []⟩ else none
    | some last => if u.toNat ≤ trailingZeros last then some ⟨u.toNat, data⟩ else none

/-- Reads a primitive bit string. -/
def bitString? (bytes : Bytes) : Option (BitString × Bytes) := do
  let (e, rest) ← Element.readTag? Tag.bitString bytes
  if e.constructed then none else return (← BitString.ofContent? e.content, rest)

/-- Passes over elements up to an end mark; `skip?` takes off one after its identifier and tells
whether it was an end mark. -/
def untilEnd? (skip? : Identifier → Bytes → Option (Bytes × Bytes × Bool)) :
    (fuel : Nat) → Bytes → Option Bytes
  | 0, _ => none
  | fuel + 1, bytes => do
    let (id, afterId) ← identifier? bytes
    let (_, rest, ended) ← skip? id afterId
    if ended then some rest else untilEnd? skip? fuel rest

/-- Takes off an element that may be open at its end, in which case it closes at its own end mark.
Hands back the content, the rest, and whether the element was an end mark. -/
def skip? : (depth : Nat) → Identifier → Bytes → Option (Bytes × Bytes × Bool)
  | 0, _, _ => none
  | depth + 1, id, afterId => do
    match ← length? afterId with
    | (.definite n, body) =>
      let (content, rest) ← take? n body
      return (content, rest, n = 0 && id.tag = 0)
    | (.indefinite, body) =>
      if id.constructed then
        let rest ← untilEnd? (skip? depth) body.length body
        return (body.take (body.length - rest.length - 2), rest, false)
      else none

end SignerTrust.Der
