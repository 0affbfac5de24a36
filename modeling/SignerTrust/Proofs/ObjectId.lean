import Mathlib.Tactic.Ring
import SignerTrust.Canonical.Reader
import SignerTrust.Der.Grammar

/-!
# Object identifiers are written as they were

The content of an object identifier is a row of numbers in base 128.  If it is complete and no
number has zeros before it, its numbers are written as that same content again
(`flatMap_encodeArc_arcs`), and so are those that the strict reader makes of them
(`content_ofArcs`).
-/

namespace SignerTrust

namespace Oid

/-- The bytes are the first digits of a number, without zeros before them. -/
inductive Digits : Nat → Bytes → Prop
  | none : Digits 0 []
  | next {n : Nat} {bytes : Bytes} {b : UInt8} (h : Digits n bytes) (hb : ¬ b < 0x80)
      (hn : n * 128 + b.toNat % 128 ≠ 0) : Digits (n * 128 + b.toNat % 128) (bytes ++ [b])

theorem encodeArc_go_of_digits {n : Nat} {bytes : Bytes} (h : Digits n bytes) :
    ∀ {fuel : Nat} (tail : Bytes), n < 128 ^ fuel → encodeArc.go fuel n tail = bytes ++ tail := by
  induction h with
  | none =>
    intro fuel tail _
    cases fuel <;> simp [encodeArc.go]
  | @next n bytes b _ hb hn ih =>
    intro fuel tail hf
    rcases fuel with _ | fuel
    · omega
    have hdiv : (n * 128 + b.toNat % 128) / 128 = n := by omega
    have hbyte : UInt8.ofNat (128 + (n * 128 + b.toNat % 128) % 128) = b := by
      have hge := UInt8.le_iff_toNat_le.1 (UInt8.not_lt.1 hb)
      have hlt := b.toNat_lt
      refine UInt8.toNat_inj.1 ?_
      rw [UInt8.toNat_ofNat']
      simp only [UInt8.reduceToNat] at hge
      omega
    have hfuel : n < 128 ^ fuel := by
      rw [Nat.pow_succ] at hf
      omega
    rw [encodeArc.go, if_neg hn, hdiv, hbyte, ih _ hfuel, List.append_assoc, List.singleton_append]

/-- A number is written with its last digit behind the first ones. -/
theorem encodeArc_of_digits {n : Nat} {bytes : Bytes} (h : Digits n bytes) {b : UInt8}
    (hb : b < 0x80) : encodeArc (n * 128 + b.toNat % 128) = bytes ++ [b] := by
  have hlt := UInt8.lt_iff_toNat_lt.1 hb
  simp only [UInt8.reduceToNat] at hlt
  have hdiv : (n * 128 + b.toNat % 128) / 128 = n := by omega
  have hmod : (n * 128 + b.toNat % 128) % 128 = b.toNat := by omega
  have hfuel : n < 128 ^ ((n * 128 + b.toNat % 128).log2 / 7) := by
    generalize hm : n * 128 + b.toNat % 128 = m at hdiv
    have hlog : m < 2 ^ (7 * (m.log2 / 7) + 7) :=
      Nat.lt_of_lt_of_le Nat.lt_log2_self (Nat.pow_le_pow_right (by decide) (by omega))
    rw [Nat.pow_add, Nat.pow_mul, show 2 ^ 7 = 128 from rfl] at hlog
    omega
  rw [encodeArc, hdiv, hmod, encodeArc_go_of_digits h _ hfuel, UInt8.ofNat_toNat]

/-- The numbers of a content that is complete are written as what is left of it, behind the first
digits of the number that is being read. -/
theorem flatMap_encodeArc_go : ∀ {bytes first : Bytes} {n : Nat}, Digits n first →
    (bytes = [] → first = []) → (∀ b ∈ bytes.getLast?, b < 0x80) →
    Der.Grammar.isObjectId.go first.isEmpty bytes = true →
    (arcs.go n (!first.isEmpty) bytes).flatMap encodeArc = first ++ bytes
  | [], first, n, _, he, _, _ => by
    obtain rfl := he rfl
    simp [arcs.go]
  | b :: rest, first, n, hd, _, hl, hm => by
    have hrest : ∀ b' ∈ rest.getLast?, b' < 0x80 := by
      intro b' hb'
      refine hl b' ?_
      rw [List.getLast?_cons, Option.mem_def.1 hb']
      rfl
    simp only [Der.Grammar.isObjectId.go, Bool.and_eq_true, Bool.not_eq_true',
      Bool.and_eq_false_imp, decide_eq_false_iff_not] at hm
    obtain ⟨hlead, hm⟩ := hm
    rw [arcs.go]
    by_cases hb : b < 0x80
    · have ih := @flatMap_encodeArc_go rest [] 0 .none (fun _ => rfl) hrest
        (by simpa [hb] using hm)
      rw [if_pos hb, List.flatMap_cons, encodeArc_of_digits hd hb]
      simpa using ih
    · -- a digit that is not the last one of its number is followed by another
      have hne : rest ≠ [] := by
        rintro rfl
        exact hb (hl b rfl)
      have hnz : n * 128 + b.toNat % 128 ≠ 0 := by
        have hge := UInt8.le_iff_toNat_le.1 (UInt8.not_lt.1 hb)
        simp only [UInt8.reduceToNat] at hge
        cases hd with
        | none =>
          have hne : b.toNat ≠ 128 := fun he => hlead rfl (UInt8.toNat_inj.1 he)
          have hlt := b.toNat_lt
          omega
        | next _ _ hn => omega
      have hfirst : (first ++ [b]).isEmpty = false := by simp [List.isEmpty_eq_false_iff]
      have ih := @flatMap_encodeArc_go rest (first ++ [b]) _ (.next hd hb hnz)
        (fun he => absurd he hne) hrest (by rw [hfirst]; simpa [hb] using hm)
      rw [hfirst, Bool.not_false, List.append_assoc] at ih
      rw [if_neg hb, ih, List.singleton_append]

/-- A content that is complete and has no zeros before a number is that of its numbers. -/
theorem flatMap_encodeArc_arcs {content : Bytes} (h : Der.Grammar.isObjectId content = true) :
    (arcs content).flatMap encodeArc = content := by
  simp only [Der.Grammar.isObjectId, Bool.and_eq_true, Option.any_eq_true,
    decide_eq_true_eq] at h
  obtain ⟨⟨last, hl, hlt⟩, hm⟩ := h
  exact @flatMap_encodeArc_go content [] 0 .none (fun _ => rfl)
    (fun b hb => by cases hl.symm.trans hb; exact hlt) hm

end Oid

/-- An identifier that the strict reader takes is written as it was. -/
theorem Canonical.content_ofArcs {content : Bytes} {arcs : Arcs}
    (h : Der.Grammar.isObjectId content = true) (ha : arcs? content = some arcs) :
    (Oid.ofArcs arcs).content = content := by
  have hc := Oid.flatMap_encodeArc_arcs h
  unfold arcs? at ha
  split at ha
  · cases ha
  split at ha
  · cases ha
  split at ha
  · cases ha
  rename_i root rest heq
  rw [heq, List.flatMap_cons] at hc
  split_ifs at ha with hbig hroot
  · cases ha
    rw [Oid.ofArcs, ← hc, show 2 * 40 + (root - 80) = root by omega]
  · cases ha
    rw [Oid.ofArcs, ← hc, show root / 40 * 40 + root % 40 = root by omega]

end SignerTrust
