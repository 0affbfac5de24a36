import Mathlib.Tactic.Common
import SignerTrust.Network.DirectoryUrl
import SignerTrust.Proofs.Utf8Text

/-!
# Percent-encoded texts

A text is spelled in a link by its bytes: letters, digits and four signs stand for themselves, and
every other byte is a percent sign with two digits of either case (`Spells`).  Such a spelling holds
no character that a link gives a meaning to (`Spells.isSpelling`) and is decoded to its text
(`decodeText?_of_spells`).  The segments that lead a path to where it is or up are spellings of one
dot and of two, so that no other text is lost as one of these (`isDot_of_spells`).
-/

namespace SignerTrust.DirectoryUrl

/-- Whether a character of a text stands for itself. -/
def isUnreserved (c : Char) : Bool :=
  c.isAlphanum || c = '-' || c = '.' || c = '_' || c = '~'

/-- Whether a character occurs in percent-encoded texts. -/
def isSpelling (c : Char) : Bool :=
  isUnreserved c || c = '%'

/-- Whether characters spell bytes: the unreserved ones by themselves and the others by a percent
sign and their two digits. -/
inductive Spells : Bytes → List Char → Prop
  | nil : Spells [] []
  | plain {b : UInt8} {bytes : Bytes} {cs : List Char}
      (hb : isUnreserved (Char.ofNat b.toNat) = true) (h : Spells bytes cs) :
      Spells (b :: bytes) (Char.ofNat b.toNat :: cs)
  | coded {b : UInt8} {bytes : Bytes} {hi lo : Char} {cs : List Char}
      (hb : isUnreserved (Char.ofNat b.toNat) = false)
      (hhi : Bytes.hexValue? hi = some (b.toNat / 16))
      (hlo : Bytes.hexValue? lo = some (b.toNat % 16)) (h : Spells bytes cs) :
      Spells (b :: bytes) ('%' :: hi :: lo :: cs)

/-- The spelling of bytes with upper-case digits. -/
def percentEncode (bytes : Bytes) : List Char :=
  bytes.flatMap fun b =>
    if isUnreserved (Char.ofNat b.toNat) then [Char.ofNat b.toNat] else percentByte b

theorem hexValue?_upper : ∀ n < 16, Bytes.hexValue? (Bytes.hexDigit n).toUpper = some n := by
  decide

/-- All bytes can be spelled. -/
theorem spells_percentEncode : ∀ bytes, Spells bytes (percentEncode bytes)
  | [] => .nil
  | b :: bytes => by
    have ih := spells_percentEncode bytes
    have hlt := b.toNat_lt
    rw [percentEncode, List.flatMap_cons]
    split_ifs with hb
    · exact .plain hb ih
    · exact .coded (Bool.eq_false_iff.2 hb) (hexValue?_upper _ (by omega))
        (hexValue?_upper _ (by omega)) ih

/-! ### The characters of a spelling -/

theorem isAlphanum_iff {c : Char} : c.isAlphanum = true ↔
    (65 ≤ c.toNat ∧ c.toNat ≤ 90 ∨ 97 ≤ c.toNat ∧ c.toNat ≤ 122) ∨ 48 ≤ c.toNat ∧ c.toNat ≤ 57 := by
  show ((decide ('A'.val ≤ c.val ∧ c.val ≤ 'Z'.val)
    || decide ('a'.val ≤ c.val) && decide (c.val ≤ 'z'.val))
    || decide ('0'.val ≤ c.val) && decide (c.val ≤ '9'.val)) = true ↔ _
  simp only [Bool.or_eq_true, Bool.and_eq_true, decide_eq_true_eq, UInt32.le_iff_toNat_le]
  rfl

theorem toNat_le_of_le {c d : Char} (h : c ≤ d) : c.toNat ≤ d.toNat := h

theorem isUnreserved_of_hexValue? {c : Char} {n : Nat} (h : Bytes.hexValue? c = some n) :
    isUnreserved c = true := by
  have halpha : c.isAlphanum = true := by
    rw [isAlphanum_iff]
    unfold Bytes.hexValue? at h
    split_ifs at h with h1 h2 h3
    · exact .inr ⟨h1.1, h1.2⟩
    · exact .inl (.inr ⟨h2.1, Nat.le_trans (toNat_le_of_le h2.2) (by decide)⟩)
    · exact .inl (.inl ⟨h3.1, Nat.le_trans (toNat_le_of_le h3.2) (by decide)⟩)
  rw [isUnreserved, halpha]
  rfl

theorem lt_of_isUnreserved {c : Char} (h : isUnreserved c = true) : c.toNat < 128 := by
  simp only [isUnreserved, Bool.or_eq_true, decide_eq_true_eq, isAlphanum_iff] at h
  rcases h with (((h | rfl) | rfl) | rfl) | rfl
  · omega
  all_goals decide

theorem lt_of_isSpelling {c : Char} (h : isSpelling c = true) : c.toNat < 128 := by
  rw [isSpelling, Bool.or_eq_true, decide_eq_true_eq] at h
  rcases h with h | rfl
  · exact lt_of_isUnreserved h
  · decide

theorem isSpelling_of_isUnreserved {c : Char} (h : isUnreserved c = true) :
    isSpelling c = true := by
  rw [isSpelling, h, Bool.true_or]

theorem Spells.isSpelling {bytes : Bytes} {cs : List Char} (h : Spells bytes cs) :
    ∀ c ∈ cs, DirectoryUrl.isSpelling c = true := by
  induction h with
  | nil => exact nofun
  | plain hb _ ih => exact List.forall_mem_cons.2 ⟨isSpelling_of_isUnreserved hb, ih⟩
  | coded hb hhi hlo _ ih =>
    simp only [List.forall_mem_cons]
    refine ⟨rfl, ?_, ?_, ih⟩
    · exact isSpelling_of_isUnreserved (isUnreserved_of_hexValue? hhi)
    · exact isSpelling_of_isUnreserved (isUnreserved_of_hexValue? hlo)

/-! ### Decoding -/

theorem encodeChar_of_lt {c : Char} (h : c.toNat < 128) :
    Utf8.encodeChar c = [UInt8.ofNat c.toNat] := by
  rw [Utf8.encodeChar, if_pos h]

theorem encodeChars_cons {c : Char} (h : c.toNat < 128) (cs : List Char) :
    Utf8.encodeChars (c :: cs) = UInt8.ofNat c.toNat :: Utf8.encodeChars cs := by
  rw [Utf8.encodeChars, List.flatMap_cons, encodeChar_of_lt h]
  rfl

theorem toNat_ofNat_byte (b : UInt8) : (Char.ofNat b.toNat).toNat = b.toNat := by
  have hb := b.toNat_lt
  exact Utf8.toNat_ofNat_of_isValidChar (.inl (by omega))

theorem ofNat_toNat_byte {c : Char} (h : c.toNat < 128) :
    Char.ofNat (UInt8.ofNat c.toNat).toNat = c := by
  rw [UInt8.toNat_ofNat', Nat.mod_eq_of_lt (by omega), Char.ofNat_toNat]

theorem percentDecode_cons_of_ne {b : UInt8} (h : b ≠ 0x25) :
    ∀ rest, percentDecode (b :: rest) = b :: percentDecode rest
  | [] => rfl
  | [_] => rfl
  | hi :: lo :: rest => by
    rw [percentDecode]
    split
    · rw [if_neg h]
    · rfl

theorem percentDecode_percent {hi lo : UInt8} {h l : Nat}
    (hhi : Bytes.hexValue? (Char.ofNat hi.toNat) = some h)
    (hlo : Bytes.hexValue? (Char.ofNat lo.toNat) = some l) (rest : Bytes) :
    percentDecode (0x25 :: hi :: lo :: rest) = UInt8.ofNat (h * 16 + l) :: percentDecode rest := by
  rw [percentDecode, hhi, hlo]
  simp only [if_true]

theorem percentDecode_of_spells {bytes : Bytes} {cs : List Char} (h : Spells bytes cs) :
    percentDecode (Utf8.encodeChars cs) = bytes := by
  induction h with
  | nil => rfl
  | @plain b bytes cs hb _ ih =>
    have hne : b ≠ 0x25 := by
      rintro rfl
      exact absurd hb (by decide)
    rw [encodeChars_cons (lt_of_isUnreserved hb), toNat_ofNat_byte, UInt8.ofNat_toNat,
      percentDecode_cons_of_ne hne, ih]
  | @coded b bytes hi lo cs _ hhi hlo _ ih =>
    have hhi' := lt_of_isUnreserved (isUnreserved_of_hexValue? hhi)
    have hlo' := lt_of_isUnreserved (isUnreserved_of_hexValue? hlo)
    have hdigit : ∀ {c : Char} {n : Nat}, c.toNat < 128 → Bytes.hexValue? c = some n →
        Bytes.hexValue? (Char.ofNat (UInt8.ofNat c.toNat).toNat) = some n := fun hc h => by
      rw [ofNat_toNat_byte hc, h]
    rw [encodeChars_cons (by decide), encodeChars_cons hhi', encodeChars_cons hlo',
      show UInt8.ofNat '%'.toNat = 0x25 from rfl,
      percentDecode_percent (hdigit hhi' hhi) (hdigit hlo' hlo), ih, Nat.div_add_mod',
      UInt8.ofNat_toNat]

/-- A spelling is decoded to the text that it spells. -/
theorem decodeText?_of_spells {text : String} {cs : List Char} (h : Spells (Utf8.encode text) cs) :
    decodeText? cs = some text := by
  rw [decodeText?, percentDecode_of_spells h, Utf8.decode?_eq_some_iff, Utf8.encode,
    Utf8.encodeChars, funext Utf8.encodeChar_eq]

/-! ### Segments of dots -/

theorem eq_or_of_toLower_eq {c d : Char} (h : c.toLower = d) :
    c = d ∨ 65 ≤ c.toNat ∧ c.toNat ≤ 90 ∧ d.toNat = c.toNat + 32 := by
  unfold Char.toLower at h
  split at h
  · rename_i hc
    refine .inr ⟨hc.1, hc.2, ?_⟩
    have hle : c.val.toNat ≤ 90 := hc.2
    rw [← h]
    show (c.val + ('a'.val - 'A'.val)).toNat = c.val.toNat + 32
    rw [UInt32.toNat_add, show ('a'.val - 'A'.val).toNat = 32 from rfl]
    omega
  · exact .inl h

/-- A character that is no letter is in lower case. -/
theorem eq_of_toLower_eq {c d : Char} (h : c.toLower = d) (hd : d.toNat < 97) : c = d := by
  rcases eq_or_of_toLower_eq h with rfl | ⟨hge, -, heq⟩
  · rfl
  · omega

/-- A spelling of a dot, with a percent sign or without, is decoded to the dot. -/
theorem mem_of_map_toLower_mem_dots {cs : List Char} (h : cs.map Char.toLower ∈ dots) :
    cs ∈ [['.'], ['%', '2', 'e'], ['%', '2', 'E']] := by
  simp only [dots, List.mem_cons, List.not_mem_nil, or_false, List.map_eq_cons_iff,
    List.map_eq_nil_iff] at h
  rcases h with ⟨c, _, rfl, hc, rfl⟩ | ⟨a, _, rfl, ha, b, _, rfl, hb, c, _, rfl, hc, rfl⟩
  · rw [eq_of_toLower_eq hc (by decide)]
    decide
  · rw [eq_of_toLower_eq ha (by decide), eq_of_toLower_eq hb (by decide)]
    rcases eq_or_of_toLower_eq hc with rfl | ⟨-, -, heq⟩
    · decide
    · have hE : c = 'E' := by
        rw [← Char.ofNat_toNat c, show c.toNat = 69 by simpa using heq.symm]
      rw [hE]
      decide

theorem decodeText?_of_isDot {cs : List Char} (h : isDot cs = true) :
    decodeText? cs = some "." := by
  have hall : ∀ cs ∈ [['.'], ['%', '2', 'e'], ['%', '2', 'E']], decodeText? cs = some "." := by
    decide +kernel
  exact hall cs (mem_of_map_toLower_mem_dots (List.contains_iff_mem.1 h))

theorem decodeText?_of_isDoubleDot {cs : List Char} (h : isDoubleDot cs = true) :
    decodeText? cs = some ".." := by
  have hall : ∀ as ∈ [['.'], ['%', '2', 'e'], ['%', '2', 'E']],
      ∀ bs ∈ [['.'], ['%', '2', 'e'], ['%', '2', 'E']], decodeText? (as ++ bs) = some ".." := by
    decide +kernel
  simp only [isDoubleDot, List.any_eq_true, decide_eq_true_eq] at h
  obtain ⟨a, ha, b, hb, h⟩ := h
  obtain ⟨as, bs, rfl, rfl, rfl⟩ := List.map_eq_append_iff.1 h
  exact hall as (mem_of_map_toLower_mem_dots ha) bs (mem_of_map_toLower_mem_dots hb)

/-- A spelling stands for the place itself only if it spells a dot. -/
theorem isDot_of_spells {text : String} {cs : List Char} (h : Spells (Utf8.encode text) cs)
    (ht : text ≠ ".") : isDot cs = false := by
  refine Bool.eq_false_iff.2 fun hd => ht ?_
  exact Option.some.inj ((decodeText?_of_spells h).symm.trans (decodeText?_of_isDot hd))

theorem isDoubleDot_of_spells {text : String} {cs : List Char} (h : Spells (Utf8.encode text) cs)
    (ht : text ≠ "..") : isDoubleDot cs = false := by
  refine Bool.eq_false_iff.2 fun hd => ht ?_
  exact Option.some.inj ((decodeText?_of_spells h).symm.trans (decodeText?_of_isDoubleDot hd))

end SignerTrust.DirectoryUrl
