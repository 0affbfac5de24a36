import SignerTrust.Text.Utf8

/-!
# Texts in units of two and four bytes

Old string types write each character as one byte, as big-endian units of 16 bits with surrogate
pairs, or as big-endian numbers of 32 bits.
-/

namespace SignerTrust.Wide

/-- Reads big-endian units of two bytes; an odd last byte refuses. -/
def units16? : Bytes → Option (List Nat)
  | [] => some []
  | [_] => none
  | hi :: lo :: rest => (units16? rest).map ((hi.toNat * 256 + lo.toNat) :: ·)

/-- Joins surrogate pairs; a surrogate without its partner refuses. -/
def joinPairs? : List Nat → Option (List Char)
  | [] => some []
  | u :: rest =>
    if u < 0xd800 ∨ 0xe000 ≤ u then (joinPairs? rest).map (Char.ofNat u :: ·)
    else if u < 0xdc00 then
      match rest with
      | v :: rest =>
        if 0xdc00 ≤ v ∧ v < 0xe000 then
          (joinPairs? rest).map (Char.ofNat (0x10000 + (u - 0xd800) * 1024 + (v - 0xdc00)) :: ·)
        else none
      | [] => none
    else none

/-- Reads a text of 16-bit units. -/
def decode16? (bytes : Bytes) : Option String := do
  return String.ofList (← joinPairs? (← units16? bytes))

/-- Reads big-endian numbers of four bytes; each must be a character. -/
def chars32? : Bytes → Option (List Char)
  | a :: b :: c :: d :: rest => do
    let ch ← Utf8.scalar? 0 (Bytes.toNat [a, b, c, d])
    return ch :: (← chars32? rest)
  | [] => some []
  | _ => none

/-- Reads a text of 32-bit characters. -/
def decode32? (bytes : Bytes) : Option String :=
  (chars32? bytes).map String.ofList

end SignerTrust.Wide
