import SignerTrust.Bytes

/-!
# UTF-8

A text is read from bytes character by character.  A character has one spelling only: longer
spellings, surrogates and numbers past the last code point are refused.
-/

namespace SignerTrust.Utf8

/-- The bytes of a character. -/
def encodeChar (c : Char) : Bytes :=
  let n := c.toNat
  if n < 0x80 then [UInt8.ofNat n]
  else if n < 0x800 then [UInt8.ofNat (0xc0 + n / 64), UInt8.ofNat (0x80 + n % 64)]
  else if n < 0x10000 then
    [UInt8.ofNat (0xe0 + n / 4096), UInt8.ofNat (0x80 + n / 64 % 64), UInt8.ofNat (0x80 + n % 64)]
  else
    [UInt8.ofNat (0xf0 + n / 262144), UInt8.ofNat (0x80 + n / 4096 % 64),
      UInt8.ofNat (0x80 + n / 64 % 64), UInt8.ofNat (0x80 + n % 64)]

/-- The bytes of a text. -/
def encodeChars (cs : List Char) : Bytes :=
  cs.flatMap encodeChar

/-- The bytes of a text. -/
def encode (text : String) : Bytes :=
  encodeChars text.toList

/-- The six bits of a continuation byte. -/
def continuation? (b : UInt8) : Option Nat :=
  if 0x80 ≤ b ∧ b < 0xc0 then some (b.toNat - 0x80) else none

/-- The character of number `n`, if it is no surrogate, not past the end, and at least `least`. -/
def scalar? (least n : Nat) : Option Char :=
  if Nat.isValidChar n ∧ least ≤ n then some (Char.ofNat n) else none

/-- Reads the first character and hands back the rest. -/
def decodeChar? : Bytes → Option (Char × Bytes)
  | [] => none
  | b0 :: r0 =>
    if b0 < 0x80 then some (Char.ofNat b0.toNat, r0)
    else match r0 with
      | [] => none
      | b1 :: r1 => do
        let c1 ← continuation? b1
        if b0 < 0xe0 then
          if b0 < 0xc0 then none
          else return (← scalar? 0x80 ((b0.toNat - 0xc0) * 64 + c1), r1)
        else match r1 with
          | [] => none
          | b2 :: r2 => do
            let c2 ← continuation? b2
            if b0 < 0xf0 then
              return (← scalar? 0x800 (((b0.toNat - 0xe0) * 64 + c1) * 64 + c2), r2)
            else match r2 with
              | [] => none
              | b3 :: r3 => do
                let c3 ← continuation? b3
                let n := (((b0.toNat - 0xf0) * 64 + c1) * 64 + c2) * 64 + c3
                return (← scalar? 0x10000 n, r3)

/-- Reads all characters. -/
def decodeChars? (bytes : Bytes) : Option (List Char) :=
  go bytes.length bytes
where
  go : Nat → Bytes → Option (List Char)
    | _, [] => some []
    | 0, _ :: _ => none
    | fuel + 1, b :: rest => do
      let (c, rest) ← decodeChar? (b :: rest)
      return c :: (← go fuel rest)

/-- Reads a text. -/
def decode? (bytes : Bytes) : Option String :=
  (decodeChars? bytes).map String.ofList

/-- Whether the bytes are a text. -/
def isText (bytes : Bytes) : Bool :=
  (decodeChars? bytes).isSome

end SignerTrust.Utf8
