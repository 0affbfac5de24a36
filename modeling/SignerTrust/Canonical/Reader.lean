import SignerTrust.Calendar
import SignerTrust.Oid

/-!
# Reading structures strictly

Status requests and responses are read by rules that look at class, number and form of every tag and
let nothing be left over inside a structure.  A reader that fails may still have moved: an element
of the right tag is taken off before its content is looked at, so that an optional part which cannot
be read counts as absent and is passed over, and a list ends before its first unreadable item.
-/

namespace SignerTrust.Canonical

open Der

/-- A reader: the value, if it can be read, and the bytes that are left either way. -/
abbrev Reader (α : Type) := OptionT (StateM Bytes) α

namespace Reader

/-- Runs a reader. -/
def run {α : Type} (r : Reader α) (bytes : Bytes) : Option α × Bytes :=
  StateT.run (OptionT.run r) bytes

/-- The reader of a function from bytes. -/
def of {α : Type} (f : Bytes → Option α × Bytes) : Reader α :=
  OptionT.mk fun bytes => f bytes

/-- Takes off the next element, whatever it is. -/
def anything : Reader Element :=
  of fun bytes =>
    match Element.read? bytes with
    | some (e, rest) => (some e, rest)
    | none => (none, bytes)

/-- Takes off the next element if it has the tag asked for. -/
def element (cls : TagClass) (tag : Nat) : Reader Element :=
  of fun bytes =>
    match Element.read? bytes with
    | some (e, rest) => if e.tagClass = cls ∧ e.tag = tag then (some e, rest) else (none, bytes)
    | none => (none, bytes)

/-- Takes off a primitive element of a universal tag. -/
def primitive (tag : Nat) : Reader Bytes := do
  let e ← element .universal tag
  if e.constructed then failure else return e.content

/-- Reads a content to its end. -/
def filling {α : Type} (r : Reader α) (content : Bytes) : Reader α :=
  match r.run content with
  | (some x, []) => pure x
  | _ => failure

/-- Reads a constructed element of a tag to its end. -/
def constructed {α : Type} (cls : TagClass) (tag : Nat) (r : Reader α) : Reader α := do
  let e ← element cls tag
  if e.constructed then filling r e.content else failure

/-- Reads a sequence to its end. -/
def sequence {α : Type} (r : Reader α) : Reader α :=
  constructed .universal Tag.sequence r

/-- Reads what stands under a context tag of its own. -/
def explicit {α : Type} (tag : Nat) (r : Reader α) : Reader α := do
  let e ← element .contextSpecific tag
  filling r e.content

/-- Reads a part that may be absent. -/
def optionally {α : Type} (r : Reader α) : Reader (Option α) :=
  of fun bytes =>
    let (x, rest) := r.run bytes
    (some x, rest)

/-- Reads items until one cannot be read. -/
def repeated {α : Type} (r : Reader α) : Reader (List α) :=
  of fun bytes =>
    let (xs, rest) := go bytes.length bytes
    (some xs, rest)
where
  go : Nat → Bytes → List α × Bytes
    | 0, bytes => ([], bytes)
    | fuel + 1, bytes =>
      match r.run bytes with
      | (none, rest) => ([], rest)
      | (some x, rest) =>
        let (xs, left) := go fuel rest
        (x :: xs, left)

/-- Reads a sequence of like items. -/
def sequenceOf {α : Type} (r : Reader α) : Reader (List α) :=
  sequence (repeated r)

/-- Reads a whole byte string; bytes after the value are let be. -/
def decode? {α : Type} (r : Reader α) (bytes : Bytes) : Option α :=
  (r.run bytes).1

end Reader

/-- The number that a content writes in two's complement; an empty content writes none. -/
def twosComplement? : Bytes → Option Int
  | [] => none
  | b :: rest =>
    let n : Int := Bytes.toNat (b :: rest)
    some (if b < 0x80 then n else n - (1 <<< (8 * (rest.length + 1)) : Nat))

/-- The shortest content that writes a number in two's complement. -/
def encodeTwosComplement (n : Int) : Bytes :=
  if 0 ≤ n then
    let digits := Bytes.ofNatMinimal n.toNat
    if digits.head?.all fun b => 0x80 ≤ b then 0 :: digits else digits
  else
    let width := Bytes.widthOf ((-n - 1).toNat * 2)
    let width := if width = 0 then 1 else width
    Bytes.ofNat width (n + (1 <<< (8 * width) : Nat)).toNat

/-- Reads a number. -/
def integer : Reader Int := do
  let content ← Reader.primitive Tag.integer
  match twosComplement? content with
  | some n => pure n
  | none => failure

/-- Reads a truth value, written as all zeros or all ones. -/
def boolean : Reader Bool := do
  match ← Reader.primitive Tag.boolean with
  | [0x00] => return false
  | [0xff] => return true
  | _ => failure

/-- Reads an octet string. -/
def octets : Reader Bytes :=
  Reader.primitive Tag.octetString

/-- The numbers of an object identifier. -/
abbrev Arcs := List Nat

/-- The numbers that a content writes; each must be complete and below `2 ^ 32`. -/
def arcs? (content : Bytes) : Option Arcs :=
  match content.getLast? with
  | none => none
  | some last =>
    if 0x80 ≤ last then none
    else match Oid.arcs content with
      | [] => none
      | root :: rest =>
        if (root :: rest).any fun n => decide (UInt32.size ≤ n) then none
        else if 79 < root then some (2 :: (root - 80) :: rest)
        else some ((root / 40) :: (root % 40) :: rest)

/-- Reads an object identifier. -/
def oid : Reader Arcs := do
  let content ← Reader.primitive Tag.objectId
  match arcs? content with
  | some arcs => pure arcs
  | none => failure

/-- The dotted text of an identifier. -/
def dotted (arcs : Arcs) : String :=
  ".".intercalate (arcs.map toString)

/-- Writes an object identifier. -/
def encodeOid (arcs : Arcs) : Bytes :=
  Der.encode 0x06 (Oid.ofArcs arcs).content

/-- Bits in whole bytes, of which the last has `unused` bits that count as zero. -/
structure Bits where
  unused : Nat
  data : Bytes
  deriving DecidableEq, Repr

/-- A byte with its `unused` low bits cleared. -/
def clearLow (unused : Nat) (b : UInt8) : UInt8 :=
  UInt8.ofNat (b.toNat >>> unused <<< unused)

/-- The bits of a content. -/
def bits? : Bytes → Option Bits
  | [] => none
  | u :: data =>
    if 7 < u then none
    else match data.getLast? with
      | none => if u = 0 then some ⟨0, []⟩ else none
      | some last => some ⟨u.toNat, data.dropLast ++ [clearLow u.toNat last]⟩

/-- Reads a bit string. -/
def bits : Reader Bits := do
  match bits? (← Reader.primitive Tag.bitString) with
  | some b => pure b
  | none => failure

/-- Writes a bit string. -/
def Bits.encode (b : Bits) : Bytes :=
  Der.encode 0x03 (UInt8.ofNat b.unused :: b.data)

/-- Two digits as a number, and what follows them. -/
def digits2? : Bytes → Option (Nat × Bytes)
  | a :: b :: rest =>
    if 0x30 ≤ a ∧ a ≤ 0x39 ∧ 0x30 ≤ b ∧ b ≤ 0x39 then
      some (10 * (a.toNat - 0x30) + (b.toNat - 0x30), rest)
    else none
  | _ => none

/-- Whether month, day and time of day are those of a date of `year`; a minute may have a leap
second. -/
def isMoment (year : Nat) (text : Bytes) : Option Bytes := do
  let (month, r) ← digits2? text
  let (day, r) ← digits2? r
  let (hour, r) ← digits2? r
  let (minute, r) ← digits2? r
  let (second, r) ← digits2? r
  let t : CivilTime := ⟨year, month, day, hour, minute, min second 59⟩
  if t.hasDate ∧ t.hasClock ∧ second ≤ 60 then some r else none

/-- Whether a content is a time with two digits for its year. -/
def isShortTime (content : Bytes) : Bool :=
  match digits2? content with
  | none => false
  | some (yy, r) => isMoment (if yy < 70 then 2000 + yy else 1900 + yy) r = some [0x5a]

/-- A content that is a time with four digits for its year, with its fraction written as short as
can be. -/
def longTime? (content : Bytes) : Option Bytes := do
  let (century, r) ← digits2? content
  let (yy, r) ← digits2? r
  let r ← isMoment (100 * century + yy) r
  match r with
  | [0x5a] => return content
  | 0x2e :: fraction =>
    let digits := fraction.dropLast
    if fraction.getLast? = some 0x5a ∧ digits ≠ []
        ∧ digits.all (fun b => decide (0x30 ≤ b ∧ b ≤ 0x39)) then
      let kept := (digits.reverse.dropWhile (· = 0x30)).reverse
      return content.take 14 ++ (if kept = [] then [] else 0x2e :: kept) ++ [0x5a]
    else none
  | _ => none

/-- Reads a time with four digits for its year; hands back its shortest content. -/
def longTime : Reader Bytes := do
  match longTime? (← Reader.primitive Tag.generalizedTime) with
  | some t => pure t
  | none => failure

end SignerTrust.Canonical
