import SignerTrust.Der.Element

/-!
# Object identifiers

An identifier is the content of its element.  Policies, markers and extension names are compared by
their dotted text, so the text of every content is fixed here, also of contents that break the
rules of the encoding.
-/

namespace SignerTrust

/-- An object identifier, held as the content of its element. -/
structure Oid where
  content : Bytes
  deriving DecidableEq, Repr

namespace Oid

/-- The numbers written in base 128, most significant digit first; a number that breaks off keeps
the digits it has. -/
def arcs : Bytes → List Nat :=
  go 0 false
where
  go : Nat → Bool → Bytes → List Nat
    | n, pending, [] => if pending then [n] else []
    | n, _, b :: rest =>
      let n := n * 128 + b.toNat % 128
      if b < 0x80 then n :: go 0 false rest else go n true rest

/-- The longest run of base-128 digits that belong to one number. -/
def longestArc : Bytes → Nat :=
  go 0
where
  go : Nat → Bytes → Nat
    | n, [] => n
    | n, b :: rest => if b < 0x80 then max (n + 1) (go 0 rest) else go (n + 1) rest

/-- The first byte as two numbers: forty to one. -/
def rootArcs (b : UInt8) : List Nat :=
  [b.toNat / 40, b.toNat % 40]

/-- The dotted text.  A content with a number too long for 64 bits is written as its bytes. -/
def dotted (oid : Oid) : String :=
  match oid.content with
  | [] => ""
  | [0] => "0"
  | first :: rest =>
    if 64 < 7 * longestArc rest then
      " ".intercalate (oid.content.map fun b => String.ofList (Bytes.hexPair b))
    else ".".intercalate ((rootArcs first ++ arcs rest).map toString)

/-- The shortest base-128 digits of a number, each but the last with its high bit set. -/
def encodeArc (n : Nat) : Bytes :=
  go (n.log2 / 7) (n / 128) [UInt8.ofNat (n % 128)]
where
  go : Nat → Nat → Bytes → Bytes
    | 0, _, tail => tail
    | fuel + 1, n, tail =>
      if n = 0 then tail else go fuel (n / 128) (UInt8.ofNat (128 + n % 128) :: tail)

/-- The identifier with the given numbers, the first two joined. -/
def ofArcs : List Nat → Oid
  | a :: b :: rest => ⟨encodeArc (a * 40 + b) ++ rest.flatMap encodeArc⟩
  | _ => ⟨[]⟩

/-- Whether the dotted text of the identifier starts with the text `start`. -/
def dottedStartsWith (oid : Oid) (start : String) : Bool :=
  start.toList.isPrefixOf oid.dotted.toList

end Oid

end SignerTrust
