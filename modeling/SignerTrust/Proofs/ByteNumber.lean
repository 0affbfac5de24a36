import Mathlib.Tactic.Ring
import SignerTrust.Canonical.Reader

/-!
# Numbers written as bytes

The low bytes of a number give the number back up to a power of 256 (`toNat_ofNat`), and as many as
it needs give all of it (`toNat_ofNatMinimal`).  Likewise a number that is written in two's
complement is read back (`twosComplement?_encode`), and no other content that gives it is shorter by
more than one byte.
-/

namespace SignerTrust

namespace Bytes

theorem foldl_toNat (bytes : Bytes) (n : Nat) :
    bytes.foldl (fun n b => n * 256 + b.toNat) n = n * 256 ^ bytes.length + toNat bytes := by
  induction bytes generalizing n with
  | nil => simp [toNat]
  | cons b bytes ih =>
    rw [toNat, List.foldl_cons, List.foldl_cons, ih, ih (0 * 256 + b.toNat), List.length_cons]
    ring

theorem toNat_cons (b : UInt8) (bytes : Bytes) :
    toNat (b :: bytes) = b.toNat * 256 ^ bytes.length + toNat bytes := by
  rw [toNat, List.foldl_cons, foldl_toNat]
  simp

theorem toNat_lt : ∀ bytes : Bytes, toNat bytes < 256 ^ bytes.length
  | [] => by simp [toNat]
  | b :: bytes => by
    have ih := toNat_lt bytes
    have hb := b.toNat_lt
    have hm : b.toNat * 256 ^ bytes.length ≤ 255 * 256 ^ bytes.length :=
      Nat.mul_le_mul_right _ (by omega)
    rw [toNat_cons, List.length_cons, Nat.pow_succ]
    omega

@[simp] theorem length_ofNat : ∀ width n : Nat, (ofNat width n).length = width
  | 0, _ => rfl
  | width + 1, n => by rw [ofNat, List.length_cons, length_ofNat width n]

theorem pow_256 (width : Nat) : 2 ^ (8 * width) = 256 ^ width := by
  rw [Nat.pow_mul]

/-- The low bytes of a number. -/
theorem toNat_ofNat : ∀ width n : Nat, toNat (ofNat width n) = n % 256 ^ width
  | 0, n => by simp [ofNat, toNat, Nat.mod_one]
  | width + 1, n => by
    have hpow : 256 ^ (width + 1) = 256 ^ width * 256 := Nat.pow_succ ..
    rw [ofNat, toNat_cons, toNat_ofNat width n, length_ofNat, Nat.shiftRight_eq_div_pow, pow_256,
      UInt8.toNat_ofNat', hpow, Nat.mod_mul]
    ring

theorem lt_pow_widthOf (n : Nat) : n < 256 ^ widthOf n := by
  unfold widthOf
  split_ifs with h
  · simp [h]
  · rw [← pow_256]
    exact Nat.lt_of_lt_of_le Nat.lt_log2_self (Nat.pow_le_pow_right (by decide) (by omega))

theorem widthOf_le {n width : Nat} (h : n < 256 ^ width) : widthOf n ≤ width := by
  unfold widthOf
  split_ifs with hn
  · exact Nat.zero_le width
  · rw [← pow_256] at h
    have := (Nat.log2_lt hn).2 h
    omega

theorem toNat_ofNatMinimal (n : Nat) : toNat (ofNatMinimal n) = n := by
  rw [ofNatMinimal, toNat_ofNat, Nat.mod_eq_of_lt (lt_pow_widthOf n)]

@[simp] theorem length_ofNatMinimal (n : Nat) : (ofNatMinimal n).length = widthOf n :=
  length_ofNat _ n

theorem widthOf_pos {n : Nat} (h : n ≠ 0) : 0 < widthOf n := by
  rw [widthOf, if_neg h]
  omega

end Bytes

namespace Canonical

theorem twosComplement?_cons_of_lt {b : UInt8} (h : b < 0x80) (rest : Bytes) :
    twosComplement? (b :: rest) = some (Bytes.toNat (b :: rest) : Int) := by
  simp only [twosComplement?, if_pos h]

theorem twosComplement?_cons_of_ge {b : UInt8} (h : ¬ b < 0x80) (rest : Bytes) :
    twosComplement? (b :: rest)
      = some ((Bytes.toNat (b :: rest) : Int) - (256 ^ (rest.length + 1) : Nat)) := by
  simp only [twosComplement?, if_neg h, Nat.one_shiftLeft, Bytes.pow_256]

/-- A negative number in bytes that are enough for its sign. -/
theorem twosComplement?_ofNat {width : Nat} {n : Int} (hw : 0 < width) (hn : n < 0)
    (hl : -n * 2 ≤ (256 ^ width : Nat)) :
    twosComplement? (Bytes.ofNat width (n + (256 ^ width : Nat)).toNat) = some n := by
  obtain ⟨k, rfl⟩ := Nat.exists_eq_succ_of_ne_zero (Nat.ne_of_gt hw)
  have hpow : 256 ^ (k + 1) = 256 ^ k * 256 := Nat.pow_succ ..
  have hlow := Bytes.toNat_lt (Bytes.ofNat k (n + (256 ^ (k + 1) : Nat)).toNat)
  rw [Bytes.length_ofNat] at hlow
  have hall : Bytes.toNat (Bytes.ofNat (k + 1) (n + (256 ^ (k + 1) : Nat)).toNat)
      = (n + (256 ^ (k + 1) : Nat)).toNat := by
    rw [Bytes.toNat_ofNat, Nat.mod_eq_of_lt (by omega)]
  rw [Bytes.ofNat] at hall ⊢
  generalize UInt8.ofNat ((n + (256 ^ (k + 1) : Nat)).toNat >>> (8 * k)) = b at hall ⊢
  have hb : ¬ b < 0x80 := by
    intro hb
    have hm : b.toNat * 256 ^ k ≤ 127 * 256 ^ k :=
      Nat.mul_le_mul_right _ (Nat.le_of_lt_succ (UInt8.lt_iff_toNat_lt.1 hb))
    rw [Bytes.toNat_cons, Bytes.length_ofNat] at hall
    omega
  rw [twosComplement?_cons_of_ge hb, hall, Bytes.length_ofNat]
  congr 1
  omega

/-- A number that is written in two's complement is read back. -/
theorem twosComplement?_encode (n : Int) : twosComplement? (encodeTwosComplement n) = some n := by
  have hwidth := Bytes.lt_pow_widthOf ((-n - 1).toNat * 2)
  unfold encodeTwosComplement
  simp only [Nat.one_shiftLeft, Bytes.pow_256]
  split_ifs with hn hd hw
  · -- a zero stands before digits that would mark a negative number, or before none
    rw [twosComplement?_cons_of_lt (by decide), Bytes.toNat_cons, Bytes.toNat_ofNatMinimal]
    simp [hn]
  · rcases hb : Bytes.ofNatMinimal n.toNat with _ | ⟨b, rest⟩
    · simp [hb] at hd
    · rw [hb] at hd
      rw [twosComplement?_cons_of_lt (by simpa using hd), ← hb, Bytes.toNat_ofNatMinimal]
      simp [hn]
  · rw [hw] at hwidth
    exact twosComplement?_ofNat Nat.one_pos (by omega) (by omega)
  · obtain ⟨k, hk⟩ := Nat.exists_eq_succ_of_ne_zero hw
    have hpow : 256 ^ (k + 1) = 256 ^ k * 256 := Nat.pow_succ ..
    rw [hk] at hwidth ⊢
    exact twosComplement?_ofNat (Nat.succ_pos k) (by omega) (by omega)

/-- No content of a number is shorter, by more than one byte, than the one that is written. -/
theorem length_encodeTwosComplement_le {content : Bytes} {n : Int}
    (h : twosComplement? content = some n) :
    (encodeTwosComplement n).length ≤ content.length + 1 := by
  obtain ⟨hu, hl⟩ : n < (256 ^ content.length : Nat) ∧ -(256 ^ content.length : Nat) ≤ n := by
    rcases content with _ | ⟨b, rest⟩
    · cases h
    have hlt := Bytes.toNat_lt (b :: rest)
    rw [List.length_cons] at *
    by_cases hb : b < 0x80
    · rw [twosComplement?_cons_of_lt hb, Option.some.injEq] at h
      omega
    · rw [twosComplement?_cons_of_ge hb, Option.some.injEq] at h
      omega
  unfold encodeTwosComplement
  simp only []
  split_ifs with hn hd hw
  · have := @Bytes.widthOf_le n.toNat content.length (by omega)
    simpa using this
  · have := @Bytes.widthOf_le n.toNat content.length (by omega)
    simp only [Bytes.length_ofNatMinimal]
    omega
  · simp
  · have hpow : 256 ^ (content.length + 1) = 256 ^ content.length * 256 := Nat.pow_succ ..
    have := @Bytes.widthOf_le ((-n - 1).toNat * 2) (content.length + 1) (by omega)
    simpa using this

end Canonical

end SignerTrust
