import SignerTrust.Proofs.ByteNumber
import SignerTrust.Proofs.Element

/-!
# Elements that are written are read back

A length that fits into 64 bits is read back (`length?_encodeLength`), and so is an element whose
identifier is one byte and whose content has such a length, whatever follows it
(`Element.read?_encode`).
-/

namespace SignerTrust.Der

theorem take?_append (content rest : Bytes) :
    take? content.length (content ++ rest) = some (content, rest) := by
  rw [take?, if_pos (by simp), List.take_left, List.drop_left]

theorem widthOf_le_of_lt {n : Nat} (h : n < UInt64.size) : Bytes.widthOf n ≤ 8 :=
  Bytes.widthOf_le (Nat.lt_of_lt_of_le h (by decide))

theorem length?_encodeLength {n : Nat} (h : n < UInt64.size) (rest : Bytes) :
    length? (encodeLength n ++ rest) = some (.definite n, rest) := by
  unfold encodeLength
  split_ifs with hn
  · have hb : (UInt8.ofNat n).toNat = n := by
      rw [UInt8.toNat_ofNat', Nat.mod_eq_of_lt (by omega)]
    rw [List.singleton_append, length?, if_pos (by rw [UInt8.lt_iff_toNat_lt, hb]; exact hn), hb]
  · have hw := widthOf_le_of_lt h
    have hp := Bytes.widthOf_pos (show n ≠ 0 by omega)
    have hb : (UInt8.ofNat (128 + Bytes.widthOf n)).toNat = 128 + Bytes.widthOf n := by
      rw [UInt8.toNat_ofNat', Nat.mod_eq_of_lt (by omega)]
    simp only [Bytes.length_ofNatMinimal, List.cons_append]
    generalize UInt8.ofNat (128 + Bytes.widthOf n) = b at hb
    have h1 : ¬ b < 0x80 := by rw [UInt8.lt_iff_toNat_lt, hb]; simp
    have h2 : b ≠ 0x80 := by rintro rfl; simp at hb; omega
    have h3 : b ≠ 0xff := by rintro rfl; simp at hb; omega
    have ht := take?_append (Bytes.ofNatMinimal n) rest
    rw [Bytes.length_ofNatMinimal] at ht
    simp only [length?, if_neg h1, if_neg h2, if_neg h3, hb, Nat.add_sub_cancel_left, ht,
      Option.bind_eq_bind, Option.bind_some, Bytes.toNat_ofNatMinimal, if_pos h]

/-- Whether a byte string is so short that its length can be written in 64 bits. -/
def Fits (bytes : Bytes) : Prop :=
  bytes.length < UInt64.size

theorem Fits.left {a b : Bytes} (h : Fits (a ++ b)) : Fits a := by
  simp only [Fits, List.length_append] at *
  omega

theorem Fits.right {a b : Bytes} (h : Fits (a ++ b)) : Fits b := by
  simp only [Fits, List.length_append] at *
  omega

theorem Fits.of_mem_flatMap {ι : Type} {f : ι → Bytes} {xs : List ι} (h : Fits (xs.flatMap f))
    {x : ι} (hx : x ∈ xs) : Fits (f x) := by
  obtain ⟨before, after, rfl⟩ := List.append_of_mem hx
  rw [List.flatMap_append, List.flatMap_cons] at h
  exact h.right.left

theorem Fits.content {id : UInt8} {content : Bytes} (h : Fits (encode id content)) :
    Fits content := by
  simp only [Fits, encode, List.cons_append, List.length_cons, List.length_append] at *
  omega

theorem length_encode_le {content : Bytes} (h : Fits content) (id : UInt8) :
    (encode id content).length ≤ content.length + 10 := by
  have hw := widthOf_le_of_lt h
  unfold encode encodeLength
  split_ifs
  · simp
  · simp only [List.cons_append, List.length_cons, List.length_append, Bytes.length_ofNatMinimal]
    omega

theorem encode_ne_nil (id : UInt8) (content : Bytes) : encode id content ≠ [] :=
  List.cons_ne_nil _ _

/-- The element that an identifier of one byte and a content make. -/
def written (id : UInt8) (content : Bytes) : Element where
  tagClass := TagClass.ofBits (id.toNat / 64)
  constructed := id.toNat / 32 % 2 = 1
  tag := id.toNat % 32
  content := content
  encoding := encode id content

/-- An element is read back, whatever follows it. -/
theorem Element.read?_encode {id : UInt8} (hid : id.toNat % 32 ≠ 31) {content : Bytes}
    (h : Fits content) (rest : Bytes) :
    read? (encode id content ++ rest) = some (written id content, rest) := by
  have hi : identifier? (encode id content ++ rest) = some
      (⟨TagClass.ofBits (id.toNat / 64), id.toNat / 32 % 2 = 1, id.toNat % 32⟩,
        encodeLength content.length ++ (content ++ rest)) := by
    simp only [encode, List.cons_append, List.append_assoc, identifier?, if_neg hid]
  rw [read?_of hi (length?_encodeLength h _) (take?_append content rest)]
  simp only [List.length_append, Nat.add_sub_cancel, List.take_left, written]

/-- What is written first under one identifier, and what follows it, can be told. -/
theorem encode_append_inj {id : UInt8} (hid : id.toNat % 32 ≠ 31) {a b rest rest' : Bytes}
    (ha : Fits a) (hb : Fits b) (h : encode id a ++ rest = encode id b ++ rest') :
    a = b ∧ rest = rest' := by
  have hread := Element.read?_encode hid ha rest
  rw [h, Element.read?_encode hid hb, Option.some.injEq, Prod.mk.injEq] at hread
  exact ⟨(congrArg Element.content hread.1).symm, hread.2.symm⟩

end SignerTrust.Der
