import SignerTrust.Digest.Padding

/-!
# MD5

Sixty-four rounds on four 32-bit words for each block of sixteen little-endian words.  Old
certificates are still signed over it.
-/

namespace SignerTrust.Md5

/-- The four chaining words. -/
structure State where
  a : UInt32
  b : UInt32
  c : UInt32
  d : UInt32
  deriving DecidableEq, Repr

/-- The chaining words before the first block. -/
def State.initial : State :=
  ⟨0x67452301, 0xefcdab89, 0x98badcfe, 0x10325476⟩

/-- The sines of 1 to 64, scaled to 32 bits. -/
def sines : List UInt32 :=
  [
   0xd76aa478, 0xe8c7b756, 0x242070db, 0xc1bdceee, 0xf57c0faf, 0x4787c62a,
   0xa8304613, 0xfd469501, 0x698098d8, 0x8b44f7af, 0xffff5bb1, 0x895cd7be,
   0x6b901122, 0xfd987193, 0xa679438e, 0x49b40821, 0xf61e2562, 0xc040b340,
   0x265e5a51, 0xe9b6c7aa, 0xd62f105d, 0x02441453, 0xd8a1e681, 0xe7d3fbc8,
   0x21e1cde6, 0xc33707d6, 0xf4d50d87, 0x455a14ed, 0xa9e3e905, 0xfcefa3f8,
   0x676f02d9, 0x8d2a4c8a, 0xfffa3942, 0x8771f681, 0x6d9d6122, 0xfde5380c,
   0xa4beea44, 0x4bdecfa9, 0xf6bb4b60, 0xbebfbc70, 0x289b7ec6, 0xeaa127fa,
   0xd4ef3085, 0x04881d05, 0xd9d4d039, 0xe6db99e5, 0x1fa27cf8, 0xc4ac5665,
   0xf4292244, 0x432aff97, 0xab9423a7, 0xfc93a039, 0x655b59c3, 0x8f0ccc92,
   0xffeff47d, 0x85845dd1, 0x6fa87e4f, 0xfe2ce6e0, 0xa3014314, 0x4e0811a1,
   0xf7537e82, 0xbd3af235, 0x2ad7d2bb, 0xeb86d391]

/-- How far each round of a group of four turns, by group of sixteen rounds. -/
def turns : List (List UInt32) :=
  [[7, 12, 17, 22], [5, 9, 14, 20], [4, 11, 16, 23], [6, 10, 15, 21]]

/-- A word turned left by `n` bits, `0 < n < 32`. -/
def rotateLeft (x n : UInt32) : UInt32 :=
  (x <<< n) ||| (x >>> (32 - n))

/-- The mixing function of round `t` and the number of the block word it takes. -/
def mix (t : Nat) (s : State) : UInt32 × Nat :=
  if t < 16 then ((s.b &&& s.c) ||| (~~~s.b &&& s.d), t)
  else if t < 32 then ((s.d &&& s.b) ||| (~~~s.d &&& s.c), (5 * t + 1) % 16)
  else if t < 48 then (s.b ^^^ s.c ^^^ s.d, (3 * t + 5) % 16)
  else (s.c ^^^ (s.b ||| ~~~s.d), 7 * t % 16)

/-- Round `t`, whose constant is `k`, over the words of a block. -/
def round (block : List UInt32) (s : State) (k : UInt32) (t : Nat) : State :=
  let (f, g) := mix t s
  let turn := (turns.getD (t / 16) []).getD (t % 4) 0
  ⟨s.d, s.b + rotateLeft (s.a + f + k + block.getD g 0) turn, s.b, s.c⟩

/-- The chaining words after a block of sixteen words. -/
def compress (s : State) (block : List UInt32) : State :=
  let r := sines.zipIdx.foldl (fun st p => round block st p.1 p.2) s
  ⟨s.a + r.a, s.b + r.b, s.c + r.c, s.d + r.d⟩

/-- The message closed to whole blocks; the length is little-endian. -/
def pad (message : Bytes) : Bytes :=
  message ++ 0x80 :: List.replicate (Padding.fill 64 8 (message.length + 1)) 0
    ++ (Bytes.ofNat 8 (8 * message.length)).reverse

/-- The sixteen bytes of the digest. -/
def digest (message : Bytes) : Bytes :=
  let words := (Padding.chunks 4 (pad message)).map fun w => UInt32.ofNat (Bytes.toNat w.reverse)
  let s := (Padding.chunks 16 words).foldl compress State.initial
  [s.a, s.b, s.c, s.d].flatMap fun w => (Bytes.ofNat 4 w.toNat).reverse

end SignerTrust.Md5
