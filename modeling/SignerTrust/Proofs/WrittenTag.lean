import SignerTrust.Proofs.ObjectId
import SignerTrust.Proofs.WrittenElement

/-!
# Tags of any number

A tag number of 31 or more is written in base 128 behind the first byte of its element.  The number
that is read has 32 bits and comes from at most five digits.  So it is the written one below
`2 ^ 32`, what is left of it modulo `2 ^ 32` below `2 ^ 35`, and none from there on
(`identifier?_encode`), and it is with this number that an element is read
(`Element.read?_encodeAs`).
-/

namespace SignerTrust

namespace Oid

/-- Every number has first digits. -/
theorem exists_digits (n : Nat) : ∃ bytes, Digits n bytes := by
  induction n using Nat.strongRecOn with
  | ind n ih =>
    rcases Nat.eq_zero_or_pos n with rfl | hpos
    · exact ⟨[], .none⟩
    · obtain ⟨bytes, hbytes⟩ := ih (n / 128) (by omega)
      have hb : (UInt8.ofNat (128 + n % 128)).toNat = 128 + n % 128 := by
        rw [UInt8.toNat_ofNat']
        omega
      have hn : n / 128 * 128 + (UInt8.ofNat (128 + n % 128)).toNat % 128 = n := by omega
      have hge : ¬ UInt8.ofNat (128 + n % 128) < 0x80 := by
        simp only [UInt8.lt_iff_toNat_lt, hb, UInt8.reduceToNat]
        omega
      have hdigits := Digits.next hbytes hge (by omega)
      rw [hn] at hdigits
      exact ⟨_, hdigits⟩

theorem Digits.length_le_iff {n : Nat} {bytes : Bytes} (h : Digits n bytes) :
    ∀ {k : Nat}, bytes.length ≤ k ↔ n < 128 ^ k := by
  induction h with
  | none =>
    intro k
    simp
  | @next n bytes b _ _ hn ih =>
    rintro (_ | k)
    · simp only [List.length_append, List.length_singleton, Nat.pow_zero]
      omega
    · have hk := @ih k
      rw [List.length_append, List.length_singleton, Nat.add_le_add_iff_right, hk, Nat.pow_succ]
      omega

theorem Digits.not_lt_of_mem {n : Nat} {bytes : Bytes} (h : Digits n bytes) :
    ∀ b ∈ bytes, ¬ b < 0x80 := by
  induction h with
  | none => simp
  | next _ hb _ ih =>
    intro b hmem
    rcases List.mem_append.1 hmem with hmem | hmem
    · exact ih b hmem
    · rwa [List.mem_singleton.1 hmem]

end Oid

namespace Der

/-- The two high bits of an identifier byte. -/
def TagClass.bits : TagClass → Nat
  | .universal => 0
  | .application => 1
  | .contextSpecific => 2
  | .reserved => 3

/-- The first byte of an identifier, with `low` in its low bits. -/
def Identifier.lead (id : Identifier) (low : Nat) : UInt8 :=
  UInt8.ofNat (id.tagClass.bits * 64 + id.constructed.toNat * 32 + low)

/-- The bytes of an identifier, as few as its number needs. -/
def Identifier.encode (id : Identifier) : Bytes :=
  if id.tag < 31 then [id.lead id.tag] else id.lead 31 :: Oid.encodeArc id.tag

/-- Writes an element of any identifier. -/
def encodeAs (id : Identifier) (content : Bytes) : Bytes :=
  id.encode ++ (encodeLength content.length ++ content)

/-- The number that is read for a written tag number. -/
def seenTag? (n : Nat) : Option Nat :=
  if n < 2 ^ 35 then some (n % 2 ^ 32) else none

/-- Digits that all announce another one are no number if they are as many as may be read. -/
theorem highTag?_of_not_lt : ∀ {fuel m : Nat} {bytes : Bytes}, (∀ b ∈ bytes, ¬ b < 0x80) →
    fuel ≤ bytes.length → ∀ tail, highTag? fuel m (bytes ++ tail) = none
  | 0, _, _, _, _, _ => by rw [highTag?]
  | fuel + 1, _, [], _, hlen, _ => by simp at hlen
  | fuel + 1, m, b :: bytes, hb, hlen, tail => by
    obtain ⟨hb, hrest⟩ := List.forall_mem_cons.1 hb
    simp only [List.cons_append, highTag?, if_neg hb]
    exact highTag?_of_not_lt hrest (Nat.le_of_succ_le_succ hlen) tail

theorem highTag?_digits {n : Nat} {bytes : Bytes} (h : Oid.Digits n bytes) :
    ∀ (fuel : Nat) (tail : Bytes), highTag? (bytes.length + fuel) 0 (bytes ++ tail)
      = highTag? fuel (n % UInt32.size) tail := by
  induction h with
  | none =>
    intro fuel tail
    rw [List.length_nil, Nat.zero_add, List.nil_append, Nat.zero_mod]
  | @next n bytes b _ hb _ ih =>
    intro fuel tail
    rw [List.length_append, List.length_singleton, List.append_assoc, Nat.add_assoc, ih,
      List.singleton_append, Nat.add_comm 1 fuel]
    simp only [highTag?, if_neg hb, Nat.add_mod, Nat.mul_mod, Nat.mod_mod]

theorem highTag?_encodeArc (n : Nat) (rest : Bytes) :
    highTag? 5 0 (Oid.encodeArc n ++ rest) = (seenTag? n).map fun n => (n, rest) := by
  obtain ⟨bytes, hbytes⟩ := Oid.exists_digits (n / 128)
  have hb : (UInt8.ofNat (n % 128)).toNat = n % 128 := by
    rw [UInt8.toNat_ofNat']
    omega
  have hlt : UInt8.ofNat (n % 128) < 0x80 := by
    simp only [UInt8.lt_iff_toNat_lt, hb, UInt8.reduceToNat]
    omega
  have henc := Oid.encodeArc_of_digits hbytes hlt
  rw [hb, Nat.mod_mod, Nat.div_add_mod'] at henc
  rw [henc, List.append_assoc, List.singleton_append, seenTag?]
  -- the last digit is the fifth at most exactly if the number keeps to 35 bits
  by_cases hn : n < 2 ^ 35
  · have hlen := hbytes.length_le_iff.2 (show n / 128 < 128 ^ 4 by omega)
    obtain ⟨k, hk⟩ := Nat.exists_eq_add_of_le hlen
    have hfuel : 5 = bytes.length + (k + 1) := by omega
    have hmod : (n / 128 % UInt32.size * 128 + n % 128) % UInt32.size = n % 2 ^ 32 := by
      rw [UInt32.size]
      omega
    rw [hfuel, highTag?_digits hbytes, if_pos hn, highTag?]
    simp only [if_pos hlt, hb, Nat.mod_mod, hmod, Option.map_some]
  · have hlen : ¬ bytes.length ≤ 4 := fun h => by
      have := hbytes.length_le_iff.1 h
      omega
    rw [if_neg hn, highTag?_of_not_lt hbytes.not_lt_of_mem (by omega), Option.map_none]

theorem Identifier.toNat_lead (id : Identifier) {low : Nat} (h : low < 32) :
    (id.lead low).toNat = id.tagClass.bits * 64 + id.constructed.toNat * 32 + low := by
  have hclass : id.tagClass.bits ≤ 3 := by cases id.tagClass <;> decide
  have hflag := Bool.toNat_le id.constructed
  rw [lead, UInt8.toNat_ofNat', Nat.mod_eq_of_lt (by omega)]

theorem Identifier.ofBits_lead (id : Identifier) {low : Nat} (h : low < 32) :
    TagClass.ofBits ((id.lead low).toNat / 64) = id.tagClass := by
  have hflag := Bool.toNat_le id.constructed
  have hbits : (id.lead low).toNat / 64 = id.tagClass.bits := by
    rw [id.toNat_lead h]
    omega
  rw [hbits]
  cases id.tagClass <;> rfl

theorem Identifier.constructed_lead (id : Identifier) {low : Nat} (h : low < 32) :
    decide ((id.lead low).toNat / 32 % 2 = 1) = id.constructed := by
  have hflag : (id.lead low).toNat / 32 % 2 = id.constructed.toNat := by
    have hle := Bool.toNat_le id.constructed
    rw [id.toNat_lead h]
    omega
  rw [hflag]
  cases id.constructed <;> rfl

theorem Identifier.low_lead (id : Identifier) {low : Nat} (h : low < 32) :
    (id.lead low).toNat % 32 = low := by
  rw [id.toNat_lead h]
  omega

/-- An identifier is read back with the number that is seen of it. -/
theorem identifier?_encode (id : Identifier) (rest : Bytes) : identifier? (id.encode ++ rest)
    = (seenTag? id.tag).map fun n => (⟨id.tagClass, id.constructed, n⟩, rest) := by
  unfold Identifier.encode
  split_ifs with hlow
  · have h32 : id.tag < 32 := by omega
    have hseen : seenTag? id.tag = some id.tag := by
      rw [seenTag?, if_pos (by omega), Nat.mod_eq_of_lt (by omega)]
    simp only [List.cons_append, List.nil_append, identifier?, id.low_lead h32,
      id.ofBits_lead h32, id.constructed_lead h32, hseen, Option.map_some]
    rw [if_neg (by omega)]
  · have h32 : 31 < 32 := by decide
    simp only [List.cons_append, identifier?, id.low_lead h32, id.ofBits_lead h32,
      id.constructed_lead h32, if_true, highTag?_encodeArc, Option.map_map]
    rfl

/-- An element is read back with the number that is seen of its tag, whatever follows it. -/
theorem Element.read?_encodeAs (id : Identifier) {content : Bytes} (h : Fits content)
    (rest : Bytes) : read? (encodeAs id content ++ rest) = (seenTag? id.tag).map fun n =>
      (⟨id.tagClass, id.constructed, n, content, encodeAs id content⟩, rest) := by
  have hi := identifier?_encode id (encodeLength content.length ++ (content ++ rest))
  have hbytes : encodeAs id content ++ rest
      = id.encode ++ (encodeLength content.length ++ (content ++ rest)) := by
    simp only [encodeAs, List.append_assoc]
  rcases hn : seenTag? id.tag with _ | n
  · rw [hn] at hi
    rw [hbytes, read?, hi]
    rfl
  · rw [hn] at hi
    rw [hbytes, read?_of hi (length?_encodeLength h _) (take?_append content rest), ← hbytes]
    simp only [List.length_append, Nat.add_sub_cancel, List.take_left, Option.map_some]

end Der

end SignerTrust
