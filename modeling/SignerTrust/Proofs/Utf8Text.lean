import Mathlib.Tactic.Common
import SignerTrust.Text.Utf8

/-!
# Texts in UTF-8

The bytes of a character are those that the core library gives it (`encodeChar_eq`).  A character is
read off the front of its bytes, whatever follows, and nothing else is read as it
(`decodeChar?_eq_some_iff`), so that bytes are read as a text exactly if they are the bytes of that
text (`decode?_eq_some_iff`).
-/

namespace SignerTrust.Utf8

theorem isValidChar_toNat (c : Char) : c.toNat.isValidChar := c.valid

theorem toNat_ofNat_of_isValidChar {n : Nat} (h : n.isValidChar) : (Char.ofNat n).toNat = n := by
  rw [Char.ofNat, dif_pos h]
  rfl

theorem lt_of_isValidChar {n : Nat} (h : n.isValidChar) : n < 0x110000 := by
  unfold Nat.isValidChar at h
  omega

theorem scalar?_eq_some_iff {least n : Nat} {c : Char} :
    scalar? least n = some c ↔ n = c.toNat ∧ least ≤ c.toNat := by
  unfold scalar?
  constructor
  · intro h
    split_ifs at h with hn
    obtain rfl := Option.some.inj h
    rw [toNat_ofNat_of_isValidChar hn.1]
    exact ⟨rfl, hn.2⟩
  · rintro ⟨rfl, h⟩
    rw [if_pos ⟨isValidChar_toNat c, h⟩, Char.ofNat_toNat]

theorem continuation?_eq_some_iff {b : UInt8} {k : Nat} :
    continuation? b = some k ↔ k < 64 ∧ b = UInt8.ofNat (0x80 + k) := by
  have hb := b.toNat_lt
  unfold continuation?
  simp only [UInt8.le_iff_toNat_le, UInt8.lt_iff_toNat_lt, UInt8.reduceToNat]
  constructor
  · intro h
    split_ifs at h with hr
    have hk := Option.some.inj h
    refine ⟨by omega, UInt8.toNat_inj.1 ?_⟩
    rw [UInt8.toNat_ofNat']
    omega
  · rintro ⟨hk, rfl⟩
    rw [UInt8.toNat_ofNat', Nat.mod_eq_of_lt (by omega), if_pos (by omega),
      Nat.add_sub_cancel_left]

/-- The bytes of a character in the core library. -/
theorem encodeChar_eq (c : Char) : encodeChar c = String.utf8EncodeChar c := by
  have hc := lt_of_isValidChar (isValidChar_toNat c)
  unfold encodeChar String.utf8EncodeChar
  simp only [show c.val.toNat = c.toNat from rfl]
  generalize c.toNat = n at hc
  by_cases h1 : n < 0x80
  · rw [if_pos h1, if_pos (by omega)]
  by_cases h2 : n < 0x800
  · rw [if_neg h1, if_pos h2, if_neg (by omega), if_pos (by omega), Nat.add_comm 0xc0,
      Nat.add_comm 0x80, Nat.mod_eq_of_lt (show n / 64 < 32 by omega)]
  by_cases h3 : n < 0x10000
  · rw [if_neg h1, if_neg h2, if_pos h3, if_neg (by omega), if_neg (by omega), if_pos (by omega),
      Nat.add_comm 0xe0, Nat.add_comm 0x80, Nat.add_comm 0x80,
      Nat.mod_eq_of_lt (show n / 4096 < 16 by omega)]
  · rw [if_neg h1, if_neg h2, if_neg h3, if_neg (by omega), if_neg (by omega), if_neg (by omega),
      Nat.add_comm 0xf0, Nat.add_comm 0x80, Nat.add_comm 0x80, Nat.add_comm 0x80,
      Nat.mod_eq_of_lt (show n / 262144 < 8 by omega)]

theorem decodeChar?_encodeChar (c : Char) (rest : Bytes) :
    decodeChar? (encodeChar c ++ rest) = some (c, rest) := by
  have hc := lt_of_isValidChar (isValidChar_toNat c)
  have hcont : ∀ k, continuation? (UInt8.ofNat (0x80 + k % 64)) = some (k % 64) := fun k =>
    continuation?_eq_some_iff.2 ⟨Nat.mod_lt _ (by decide), rfl⟩
  have hscalar : ∀ least {n}, n = c.toNat → least ≤ c.toNat → scalar? least n = some c :=
    fun _ _ h h' => scalar?_eq_some_iff.2 ⟨h, h'⟩
  unfold encodeChar
  dsimp only
  split_ifs with h1 h2 h3
  · have hb : (UInt8.ofNat c.toNat).toNat = c.toNat := by
      rw [UInt8.toNat_ofNat']
      omega
    simp [decodeChar?, UInt8.lt_iff_toNat_lt, hb, h1]
  · have hb : (UInt8.ofNat (0xc0 + c.toNat / 64)).toNat = 0xc0 + c.toNat / 64 := by
      rw [UInt8.toNat_ofNat']
      omega
    have hn : (0xc0 + c.toNat / 64 - 0xc0) * 64 + c.toNat % 64 = c.toNat := by omega
    simp only [List.cons_append, List.nil_append, decodeChar?, UInt8.lt_iff_toNat_lt, hb, hcont,
      UInt8.reduceToNat, hscalar 0x80 hn (by omega), Option.bind_eq_bind, Option.bind_some,
      Option.pure_def]
    rw [if_neg (by omega), if_pos (by omega), if_neg (by omega)]
  · have hb : (UInt8.ofNat (0xe0 + c.toNat / 4096)).toNat = 0xe0 + c.toNat / 4096 := by
      rw [UInt8.toNat_ofNat']
      omega
    have hn : ((0xe0 + c.toNat / 4096 - 0xe0) * 64 + c.toNat / 64 % 64) * 64 + c.toNat % 64
        = c.toNat := by omega
    simp only [List.cons_append, List.nil_append, decodeChar?, UInt8.lt_iff_toNat_lt, hb, hcont,
      UInt8.reduceToNat, hscalar 0x800 hn (by omega), Option.bind_eq_bind, Option.bind_some,
      Option.pure_def]
    rw [if_neg (by omega), if_neg (by omega), if_pos (by omega)]
  · have hb : (UInt8.ofNat (0xf0 + c.toNat / 262144)).toNat = 0xf0 + c.toNat / 262144 := by
      rw [UInt8.toNat_ofNat']
      omega
    have hn : (((0xf0 + c.toNat / 262144 - 0xf0) * 64 + c.toNat / 4096 % 64) * 64
        + c.toNat / 64 % 64) * 64 + c.toNat % 64 = c.toNat := by omega
    simp only [List.cons_append, List.nil_append, decodeChar?, UInt8.lt_iff_toNat_lt, hb, hcont,
      UInt8.reduceToNat, hscalar 0x10000 hn (by omega), Option.bind_eq_bind, Option.bind_some,
      Option.pure_def]
    rw [if_neg (by omega), if_neg (by omega), if_neg (by omega)]

/-! The bytes of a character, told from its first byte and the bits of the others. -/

theorem encodeChar_of_two {c : Char} {b0 : UInt8} {c1 : Nat} (h0 : b0.toNat < 0xe0)
    (h1 : c1 < 64) (hn : (b0.toNat - 0xc0) * 64 + c1 = c.toNat) (hle : 0x80 ≤ c.toNat) :
    encodeChar c = [b0, UInt8.ofNat (0x80 + c1)] := by
  have hb : 0xc0 + c.toNat / 64 = b0.toNat := by omega
  have hm1 : c.toNat % 64 = c1 := by omega
  simp only [encodeChar]
  rw [if_neg (by omega), if_pos (by omega), hb, hm1, UInt8.ofNat_toNat]

theorem encodeChar_of_three {c : Char} {b0 : UInt8} {c1 c2 : Nat} (h0 : ¬ b0.toNat < 0xe0)
    (h0' : b0.toNat < 0xf0) (h1 : c1 < 64) (h2 : c2 < 64)
    (hn : ((b0.toNat - 0xe0) * 64 + c1) * 64 + c2 = c.toNat) (hle : 0x800 ≤ c.toNat) :
    encodeChar c = [b0, UInt8.ofNat (0x80 + c1), UInt8.ofNat (0x80 + c2)] := by
  have hb : 0xe0 + c.toNat / 4096 = b0.toNat := by omega
  have hm1 : c.toNat / 64 % 64 = c1 := by omega
  have hm2 : c.toNat % 64 = c2 := by omega
  simp only [encodeChar]
  rw [if_neg (by omega), if_neg (by omega), if_pos (by omega), hb, hm1, hm2, UInt8.ofNat_toNat]

theorem encodeChar_of_four {c : Char} {b0 : UInt8} {c1 c2 c3 : Nat} (h0 : ¬ b0.toNat < 0xf0)
    (h1 : c1 < 64) (h2 : c2 < 64) (h3 : c3 < 64)
    (hn : (((b0.toNat - 0xf0) * 64 + c1) * 64 + c2) * 64 + c3 = c.toNat)
    (hle : 0x10000 ≤ c.toNat) : encodeChar c =
      [b0, UInt8.ofNat (0x80 + c1), UInt8.ofNat (0x80 + c2), UInt8.ofNat (0x80 + c3)] := by
  have hb0 := b0.toNat_lt
  have hb : 0xf0 + c.toNat / 262144 = b0.toNat := by omega
  have hm1 : c.toNat / 4096 % 64 = c1 := by omega
  have hm2 : c.toNat / 64 % 64 = c2 := by omega
  have hm3 : c.toNat % 64 = c3 := by omega
  simp only [encodeChar]
  rw [if_neg (by omega), if_neg (by omega), if_neg (by omega), hb, hm1, hm2, hm3,
    UInt8.ofNat_toNat]

/-- What is read as a character starts with its bytes. -/
theorem eq_of_decodeChar? {bytes rest : Bytes} {c : Char}
    (h : decodeChar? bytes = some (c, rest)) : bytes = encodeChar c ++ rest := by
  rcases bytes with _ | ⟨b0, r0⟩
  · cases h
  unfold decodeChar? at h
  simp only [UInt8.lt_iff_toNat_lt, UInt8.reduceToNat] at h
  -- the first byte says how many others follow it, and each is read in turn
  by_cases h1 : b0.toNat < 0x80
  · rw [if_pos h1] at h
    obtain ⟨rfl, rfl⟩ := Prod.mk.inj (Option.some.inj h)
    have hn : (Char.ofNat b0.toNat).toNat = b0.toNat :=
      toNat_ofNat_of_isValidChar (.inl (by omega))
    simp only [encodeChar, hn]
    rw [if_pos h1, UInt8.ofNat_toNat, List.singleton_append]
  rw [if_neg h1] at h
  rcases r0 with _ | ⟨b1, r1⟩
  · cases h
  obtain ⟨c1, hc1, h⟩ := Option.bind_eq_some_iff.1 h
  obtain ⟨hlt1, hb1⟩ := continuation?_eq_some_iff.1 hc1
  by_cases h2 : b0.toNat < 0xe0
  · rw [if_pos h2] at h
    split_ifs at h
    obtain ⟨ch, hch, h⟩ := Option.bind_eq_some_iff.1 h
    obtain ⟨rfl, rfl⟩ := Prod.mk.inj (Option.some.inj h)
    obtain ⟨hn, hle⟩ := scalar?_eq_some_iff.1 hch
    rw [encodeChar_of_two h2 hlt1 hn hle, hb1]
    rfl
  rw [if_neg h2] at h
  rcases r1 with _ | ⟨b2, r2⟩
  · cases h
  obtain ⟨c2, hc2, h⟩ := Option.bind_eq_some_iff.1 h
  obtain ⟨hlt2, hb2⟩ := continuation?_eq_some_iff.1 hc2
  by_cases h3 : b0.toNat < 0xf0
  · rw [if_pos h3] at h
    obtain ⟨ch, hch, h⟩ := Option.bind_eq_some_iff.1 h
    obtain ⟨rfl, rfl⟩ := Prod.mk.inj (Option.some.inj h)
    obtain ⟨hn, hle⟩ := scalar?_eq_some_iff.1 hch
    rw [encodeChar_of_three h2 h3 hlt1 hlt2 hn hle, hb1, hb2]
    rfl
  rw [if_neg h3] at h
  rcases r2 with _ | ⟨b3, r3⟩
  · cases h
  obtain ⟨c3, hc3, h⟩ := Option.bind_eq_some_iff.1 h
  obtain ⟨hlt3, hb3⟩ := continuation?_eq_some_iff.1 hc3
  obtain ⟨ch, hch, h⟩ := Option.bind_eq_some_iff.1 h
  obtain ⟨rfl, rfl⟩ := Prod.mk.inj (Option.some.inj h)
  obtain ⟨hn, hle⟩ := scalar?_eq_some_iff.1 hch
  rw [encodeChar_of_four h3 hlt1 hlt2 hlt3 hn hle, hb1, hb2, hb3]
  rfl

theorem decodeChar?_eq_some_iff {bytes rest : Bytes} {c : Char} :
    decodeChar? bytes = some (c, rest) ↔ bytes = encodeChar c ++ rest := by
  constructor
  · exact eq_of_decodeChar?
  · rintro rfl
    exact decodeChar?_encodeChar c rest

theorem encodeChar_ne_nil (c : Char) : encodeChar c ≠ [] := by
  rw [encodeChar_eq]
  exact String.utf8EncodeChar_ne_nil

/-- As many rounds as there are bytes are enough, since each takes one byte at least. -/
theorem decodeChars?_go_eq_some_iff : ∀ {fuel : Nat} {bytes : Bytes} {cs : List Char},
    bytes.length ≤ fuel → (decodeChars?.go fuel bytes = some cs ↔ bytes = encodeChars cs)
  | fuel, [], cs, _ => by
    rw [decodeChars?.go, Option.some.injEq]
    rcases cs with _ | ⟨c, cs⟩
    · simp [encodeChars]
    · simp [encodeChars, encodeChar_ne_nil]
  | 0, b :: rest, cs, h => by simp at h
  | fuel + 1, b :: rest, cs, h => by
    rw [decodeChars?.go]
    constructor
    · intro hd
      obtain ⟨⟨c, left⟩, hc, hd⟩ := Option.bind_eq_some_iff.1 hd
      obtain ⟨cs', hcs, hd⟩ := Option.bind_eq_some_iff.1 hd
      obtain rfl := Option.some.inj hd
      have hbytes := eq_of_decodeChar? hc
      have hlen := congrArg List.length hbytes
      have hpos := List.length_pos_iff.2 (encodeChar_ne_nil c)
      simp only [List.length_cons, List.length_append] at hlen h
      rw [hbytes, (decodeChars?_go_eq_some_iff (by omega)).1 hcs]
      rfl
    · intro hbytes
      rcases cs with _ | ⟨c, cs⟩
      · cases hbytes
      have hcons : b :: rest = encodeChar c ++ encodeChars cs := hbytes
      have hlen := congrArg List.length hcons
      have hpos := List.length_pos_iff.2 (encodeChar_ne_nil c)
      simp only [List.length_cons, List.length_append] at hlen h
      have ih : decodeChars?.go fuel (encodeChars cs) = some cs :=
        (decodeChars?_go_eq_some_iff (by omega)).2 rfl
      rw [decodeChar?_eq_some_iff.2 hcons]
      simp only [Option.bind_eq_bind, Option.bind_some, ih, Option.pure_def]

/-- Bytes are read as a text exactly if they are its bytes. -/
theorem decode?_eq_some_iff {bytes : Bytes} {text : String} :
    decode? bytes = some text ↔ bytes = text.toList.flatMap String.utf8EncodeChar := by
  have hcs : encodeChars text.toList = text.toList.flatMap String.utf8EncodeChar := by
    rw [encodeChars, funext encodeChar_eq]
  rw [decode?, Option.map_eq_some_iff, ← hcs]
  constructor
  · rintro ⟨cs, hd, rfl⟩
    rw [String.toList_ofList]
    exact (decodeChars?_go_eq_some_iff (Nat.le_refl _)).1 hd
  · intro h
    exact ⟨text.toList, (decodeChars?_go_eq_some_iff (Nat.le_refl _)).2 h, String.ofList_toList⟩

end SignerTrust.Utf8
