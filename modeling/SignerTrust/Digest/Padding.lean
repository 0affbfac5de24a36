import SignerTrust.Bytes

/-!
# Padding and blocks of the iterated digests

A message is closed by the byte `0x80`, zeros, and its length in bits, so that it fills whole
blocks; a block is then read as words.
-/

namespace SignerTrust.Padding

/-- The zeros that bring `used` bytes and a length field of `field` bytes to whole blocks. -/
def fill (block field used : Nat) : Nat :=
  (block - (used + field) % block) % block

/-- The message closed for blocks of `block` bytes with a big-endian length of `field` bytes. -/
def pad (block field : Nat) (message : Bytes) : Bytes :=
  message ++ 0x80 :: List.replicate (fill block field (message.length + 1)) 0
    ++ Bytes.ofNat field (8 * message.length)

/-- Cuts a list into runs of `size`; the last run may be shorter. -/
def chunks {α : Type} (size : Nat) (xs : List α) : List (List α) :=
  go xs.length xs
where
  go : Nat → List α → List (List α)
    | 0, _ => []
    | fuel + 1, xs => if xs.isEmpty then [] else xs.take size :: go fuel (xs.drop size)

/-- Blocks of sixteen big-endian words of 32 bits. -/
def blocks32 (padded : Bytes) : List (List UInt32) :=
  chunks 16 ((chunks 4 padded).map fun w => UInt32.ofNat (Bytes.toNat w))

/-- Blocks of sixteen big-endian words of 64 bits. -/
def blocks64 (padded : Bytes) : List (List UInt64) :=
  chunks 16 ((chunks 8 padded).map fun w => UInt64.ofNat (Bytes.toNat w))

end SignerTrust.Padding
