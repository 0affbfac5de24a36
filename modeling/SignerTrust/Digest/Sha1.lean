import SignerTrust.Digest.Padding

/-!
# SHA-1

The digest that certificate identifiers use for names and keys: eighty rounds on five 32-bit words
for each block of sixteen words.
-/

namespace SignerTrust.Sha1

/-- The five chaining words. -/
structure State where
  a : UInt32
  b : UInt32
  c : UInt32
  d : UInt32
  e : UInt32
  deriving DecidableEq, Repr

/-- The chaining words before the first block. -/
def State.initial : State :=
  ⟨0x67452301, 0xefcdab89, 0x98badcfe, 0x10325476, 0xc3d2e1f0⟩

/-- A word turned left by `n` bits, `0 < n < 32`. -/
def rotateLeft (x : UInt32) (n : UInt32) : UInt32 :=
  (x <<< n) ||| (x >>> (32 - n))

/-- The next `n` schedule words after the sixteen in the window, oldest first. -/
def extend : Nat → List UInt32 → List UInt32
  | 0, _ => []
  | n + 1, window =>
    let word i := window.getD i 0
    let next := rotateLeft (word 13 ^^^ word 8 ^^^ word 2 ^^^ word 0) 1
    next :: extend n (window.drop 1 ++ [next])

/-- The mixing function and constant of round `t`. -/
def mix (t : Nat) (s : State) : UInt32 :=
  if t < 20 then ((s.b &&& s.c) ||| (~~~s.b &&& s.d)) + 0x5a827999
  else if t < 40 then (s.b ^^^ s.c ^^^ s.d) + 0x6ed9eba1
  else if t < 60 then ((s.b &&& s.c) ||| (s.b &&& s.d) ||| (s.c &&& s.d)) + 0x8f1bbcdc
  else (s.b ^^^ s.c ^^^ s.d) + 0xca62c1d6

/-- One round with the schedule word `w`. -/
def round (s : State) (w : UInt32) (t : Nat) : State :=
  ⟨rotateLeft s.a 5 + mix t s + s.e + w, s.a, rotateLeft s.b 30, s.c, s.d⟩

/-- The chaining words after a block of sixteen words. -/
def compress (s : State) (block : List UInt32) : State :=
  let words := block ++ extend 64 block
  let r := words.zipIdx.foldl (fun st p => round st p.1 p.2) s
  ⟨s.a + r.a, s.b + r.b, s.c + r.c, s.d + r.d, s.e + r.e⟩

/-- The twenty bytes of the digest. -/
def digest (message : Bytes) : Bytes :=
  let s := (Padding.blocks32 (Padding.pad 64 8 message)).foldl compress State.initial
  [s.a, s.b, s.c, s.d, s.e].flatMap fun w => Bytes.ofNat 4 w.toNat

end SignerTrust.Sha1
