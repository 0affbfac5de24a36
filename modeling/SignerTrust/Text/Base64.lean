import SignerTrust.Bytes

/-!
# Base64

Four characters stand for three bytes.  A group may be cut short by padding, also in the middle of a
text; the bits that padding leaves over must be zero.
-/

namespace SignerTrust.Base64

/-- The six bits of a character of the alphabet. -/
def value? (c : Char) : Option Nat :=
  if 'A' ≤ c ∧ c ≤ 'Z' then some (c.toNat - 'A'.toNat)
  else if 'a' ≤ c ∧ c ≤ 'z' then some (c.toNat - 'a'.toNat + 26)
  else if '0' ≤ c ∧ c ≤ '9' then some (c.toNat - '0'.toNat + 52)
  else if c = '+' then some 62
  else if c = '/' then some 63
  else none

/-- The bytes of one group. -/
def group? (a b c d : Char) : Option Bytes := do
  let x ← value? a
  let y ← value? b
  let first := UInt8.ofNat (x * 4 + y / 16)
  if c = '=' ∧ d = '=' then if y % 16 = 0 then some [first] else none
  else
    let z ← value? c
    let second := UInt8.ofNat (y % 16 * 16 + z / 4)
    if d = '=' then if z % 4 = 0 then some [first, second] else none
    else return [first, second, UInt8.ofNat (z % 4 * 64 + (← value? d))]

/-- Reads whole groups. -/
def decode? : List Char → Option Bytes
  | [] => some []
  | a :: b :: c :: d :: rest => do return (← group? a b c d) ++ (← decode? rest)
  | _ => none

end SignerTrust.Base64
