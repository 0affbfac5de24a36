import Mathlib.Algebra.Group.Nat.Defs
import Mathlib.Data.List.Infix
import SignerTrust.Proofs.Authentic
import SignerTrust.Proofs.ClassificationOrder

/-!
# The arcs that mark an ecosystem

A marker is looked for by its dotted text, and a text that starts with that of an arc may go on
with a point or with a further digit: the last number of the arc stands for all numbers whose
decimal digits start with its own (`Oid.dottedStartsWith_iff`).  So an extension marks an ecosystem
that lies under its field arc, as the arc itself or below it, or beside it, under a number of more
digits.  A certificate with none of the latter is of an ecosystem only by an extension under its
field arc, and one with some of them may be of it by these alone (`looksLike_by_digits`).
-/

namespace SignerTrust

/-! ### Digits and points -/

theorem toDigits_injective {n m : Nat} (h : Nat.toDigits 10 n = Nat.toDigits 10 m) : n = m := by
  rw [← Nat.ofDigitChars_ten_toDigits (n := n), h, Nat.ofDigitChars_ten_toDigits]

/-- The digits of a number start with those of another if the latter is left when some are dropped
from the end. -/
theorem toDigits_prefix_of_div : ∀ {k n m : Nat}, 0 < n → m / 10 ^ k = n →
    Nat.toDigits 10 n <+: Nat.toDigits 10 m
  | 0, n, m, _, h => by
    rw [Nat.pow_zero, Nat.div_one] at h
    rw [h]
  | k + 1, n, m, hn, h => by
    rw [Nat.pow_succ', ← Nat.div_div_eq_div_mul] at h
    have hm : 10 ≤ m := by
      by_contra hlt
      rw [Nat.div_eq_of_lt (Nat.lt_of_not_le hlt), Nat.zero_div] at h
      omega
    rw [Nat.toDigits_of_base_le (by decide) hm]
    exact (toDigits_prefix_of_div hn h).trans (List.prefix_append _ _)

theorem exists_div_of_toDigits_prefix {n : Nat} (m : Nat)
    (h : Nat.toDigits 10 n <+: Nat.toDigits 10 m) : ∃ k, m / 10 ^ k = n := by
  induction m using Nat.strongRecOn with
  | ind m ih =>
    by_cases hm : m < 10
    · refine ⟨0, ?_⟩
      rw [Nat.toDigits_of_lt_base hm, ← List.nil_append [m.digitChar], List.prefix_concat_iff] at h
      rcases h with h | h
      · rw [Nat.pow_zero, Nat.div_one]
        exact (toDigits_injective (h.trans (Nat.toDigits_of_lt_base hm).symm)).symm
      · exact absurd (List.prefix_nil.1 h) Nat.toDigits_ne_nil
    · have hle := Nat.le_of_not_lt hm
      have hdigits := Nat.toDigits_of_base_le (by decide) hle
      rw [hdigits, List.prefix_concat_iff, ← hdigits] at h
      rcases h with h | h
      · exact ⟨0, by rw [Nat.pow_zero, Nat.div_one, toDigits_injective h]⟩
      · obtain ⟨k, hk⟩ := ih (m / 10) (by omega) h
        exact ⟨k + 1, by rw [Nat.pow_succ', ← Nat.div_div_eq_div_mul, hk]⟩

theorem point_not_mem_toDigits (n : Nat) : '.' ∉ Nat.toDigits 10 n := fun h =>
  absurd (Nat.isDigit_of_mem_toDigits (by decide) (by decide) h) (by decide)

theorem prefix_append_point_iff : ∀ {a b rest : List Char}, '.' ∉ a →
    (a <+: b ++ '.' :: rest ↔ a <+: b)
  | [], b, rest, _ => by simp
  | c :: a, [], rest, h => by
    have hc : c ≠ '.' := fun he => h (he ▸ List.mem_cons_self)
    simp [List.cons_prefix_cons, hc]
  | c :: a, d :: b, rest, h => by
    have ih : a <+: b ++ '.' :: rest ↔ a <+: b :=
      prefix_append_point_iff fun ha => h (List.mem_cons_of_mem _ ha)
    rw [List.cons_append, List.cons_prefix_cons, List.cons_prefix_cons, ih]

theorem append_point_prefix_iff : ∀ {a b as bs : List Char}, '.' ∉ a → '.' ∉ b →
    (a ++ '.' :: as <+: b ++ '.' :: bs ↔ a = b ∧ as <+: bs)
  | [], [], as, bs, _, _ => by simp [List.cons_prefix_cons]
  | [], d :: b, as, bs, _, hb => by
    have hd : '.' ≠ d := fun he => hb (he ▸ List.mem_cons_self)
    simp [List.cons_prefix_cons, hd]
  | c :: a, [], as, bs, ha, _ => by
    have hc : c ≠ '.' := fun he => ha (he ▸ List.mem_cons_self)
    simp [List.cons_prefix_cons, hc]
  | c :: a, d :: b, as, bs, ha, hb => by
    have ih : a ++ '.' :: as <+: b ++ '.' :: bs ↔ a = b ∧ as <+: bs :=
      append_point_prefix_iff (fun h => ha (List.mem_cons_of_mem _ h))
        fun h => hb (List.mem_cons_of_mem _ h)
    rw [List.cons_append, List.cons_append, List.cons_prefix_cons, ih, List.cons.injEq, and_assoc]

/-- The dotted text of numbers. -/
def dottedText (numbers : List Nat) : String :=
  ".".intercalate (numbers.map toString)

theorem toList_dottedText (numbers : List Nat) :
    (dottedText numbers).toList = ['.'].intercalate (numbers.map (Nat.toDigits 10)) := by
  have hdigits : String.toList ∘ toString = Nat.toDigits 10 := by
    funext n
    rw [Function.comp_apply, Nat.toString_eq_ofList_toDigits, String.toList_ofList]
  rw [dottedText, String.toList_intercalate, List.map_map, hdigits]
  rfl

theorem intercalate_cons (numbers : List Nat) (n : Nat) (h : numbers ≠ []) :
    ['.'].intercalate ((n :: numbers).map (Nat.toDigits 10))
      = Nat.toDigits 10 n ++ '.' :: ['.'].intercalate (numbers.map (Nat.toDigits 10)) := by
  obtain ⟨m, rest, rfl⟩ := List.exists_cons_of_ne_nil h
  rw [List.map_cons, List.map_cons, List.intercalate_cons_cons, List.append_assoc,
    List.singleton_append]

/-- A dotted text starts with that of an arc if its numbers are those of the arc up to the last one,
whose digits may go on. -/
theorem intercalate_prefix_iff {n : Nat} : ∀ {parent numbers : List Nat},
    ['.'].intercalate ((parent ++ [n]).map (Nat.toDigits 10))
        <+: ['.'].intercalate (numbers.map (Nat.toDigits 10))
      ↔ ∃ m rest, numbers = parent ++ m :: rest ∧ Nat.toDigits 10 n <+: Nat.toDigits 10 m
  | [], [] => by simp [List.intercalate, Nat.toDigits_ne_nil]
  | [], m :: rest => by
    have hiff : Nat.toDigits 10 n <+: ['.'].intercalate ((m :: rest).map (Nat.toDigits 10))
        ↔ Nat.toDigits 10 n <+: Nat.toDigits 10 m := by
      rcases rest with _ | ⟨m', rest⟩
      · simp
      · rw [intercalate_cons _ _ (List.cons_ne_nil _ _),
          prefix_append_point_iff (point_not_mem_toDigits n)]
    simpa using hiff
  | p :: parent, [] => by
    rw [List.cons_append, intercalate_cons _ _ (by simp)]
    simp [List.intercalate]
  | p :: parent, [m] => by
    rw [List.cons_append, intercalate_cons _ _ (by simp)]
    constructor
    · intro h
      have hpoint : '.' ∈ Nat.toDigits 10 m := by simpa using h.subset (by simp)
      exact absurd hpoint (point_not_mem_toDigits m)
    · rintro ⟨m', rest, he, -⟩
      simp at he
  | p :: parent, m :: m' :: rest => by
    rw [List.cons_append, intercalate_cons _ _ (by simp), intercalate_cons _ _ (by simp),
      append_point_prefix_iff (point_not_mem_toDigits p) (point_not_mem_toDigits m),
      intercalate_prefix_iff]
    constructor
    · rintro ⟨hp, m₁, rest₁, he, h⟩
      exact ⟨m₁, rest₁, by rw [toDigits_injective hp, he, List.cons_append], h⟩
    · rintro ⟨m₁, rest₁, he, h⟩
      obtain ⟨hp, hrest⟩ := List.cons.inj (he.trans List.cons_append)
      exact ⟨congrArg (Nat.toDigits 10) hp.symm, m₁, rest₁, hrest, h⟩

/-! ### The arc that an identifier lies under -/

namespace Oid

/-- The numbers of the identifier. -/
def numbers (oid : Oid) : List Nat :=
  match oid.content with
  | [] => []
  | first :: rest => rootArcs first ++ arcs rest

/-- Whether the dotted text of the identifier consists of its numbers, each of which has no more
digits than fit 64 bits. -/
def IsNumbered (oid : Oid) : Prop :=
  7 * longestArc oid.content.tail ≤ 64

/-- Whether the identifier has the numbers `parent` and then one whose decimal digits start with
those of `n`. -/
def IsMarked (parent : List Nat) (n : Nat) (oid : Oid) : Prop :=
  oid.IsNumbered ∧ ∃ m rest, oid.numbers = parent ++ m :: rest ∧ ∃ k, m / 10 ^ k = n

/-- Whether the identifier has the numbers `parent` and then one other than `n` whose decimal digits
start with those of `n`. -/
def IsBeside (parent : List Nat) (n : Nat) (oid : Oid) : Prop :=
  oid.IsNumbered
    ∧ ∃ m rest, oid.numbers = parent ++ m :: rest ∧ m ≠ n ∧ ∃ k, m / 10 ^ k = n

theorem point_not_mem_hexPair (b : UInt8) : '.' ∉ Bytes.hexPair b := by
  have hdigit : ∀ n : Fin 16, '.' ≠ Bytes.hexDigit n := by decide
  have hb := b.toNat_lt
  intro h
  simp only [Bytes.hexPair, List.mem_cons, List.not_mem_nil, or_false] at h
  rcases h with h | h
  · exact hdigit ⟨b.toNat / 16, by omega⟩ h
  · exact hdigit ⟨b.toNat % 16, by omega⟩ h

theorem point_not_mem_hexText : ∀ bytes : Bytes,
    '.' ∉ (" ".intercalate (bytes.map fun b => String.ofList (Bytes.hexPair b))).toList
  | [] => by simp
  | [b] => by simpa [String.toList_intercalate] using point_not_mem_hexPair b
  | b :: b' :: rest => by
    have ih := point_not_mem_hexText (b' :: rest)
    simp only [String.toList_intercalate, List.map_cons, List.intercalate_cons_cons,
      String.toList_ofList, List.mem_append, not_or] at ih ⊢
    exact ⟨⟨point_not_mem_hexPair b, by decide⟩, ih⟩

theorem dotted_of_isNumbered {oid : Oid} (h : oid.IsNumbered) (hne : oid.content ≠ [])
    (hz : oid.content ≠ [0]) : oid.dotted = dottedText oid.numbers := by
  rcases oid with ⟨_ | ⟨first, rest⟩⟩
  · exact absurd rfl hne
  · have hle : ¬ 64 < 7 * longestArc rest := Nat.not_lt.2 h
    unfold dotted
    split
    · exact absurd ‹_› hne
    · exact absurd ‹_› hz
    · rename_i heq
      obtain ⟨rfl, rfl⟩ := List.cons.inj heq
      rw [if_neg hle]
      rfl

theorem point_not_mem_dotted {oid : Oid}
    (h : ¬ oid.IsNumbered ∨ oid.content = [] ∨ oid.content = [0]) : '.' ∉ oid.dotted.toList := by
  unfold dotted
  split
  · decide
  · decide
  · rename_i first rest hz heq
    have hlt : 64 < 7 * longestArc rest := by
      rcases h with h | h | h
      · rw [IsNumbered, heq] at h
        exact Nat.lt_of_not_le h
      · exact absurd (heq.symm.trans h) (List.cons_ne_nil _ _)
      · obtain ⟨hfirst, hrest⟩ := List.cons.inj (heq.symm.trans h)
        exact absurd hrest (hz hfirst)
    rw [if_pos hlt]
    exact point_not_mem_hexText _

theorem not_isMarked_of_zero {oid : Oid} (hc : oid.content = [] ∨ oid.content = [0])
    {parent : List Nat} {n : Nat} (hn : 0 < n) : ¬ oid.IsMarked parent n := by
  rintro ⟨-, m, rest, hnum, k, hk⟩
  have hm : m ∈ oid.numbers := by
    rw [hnum]
    exact List.mem_append_right _ List.mem_cons_self
  have hzero : m = 0 := by
    rcases hc with hc | hc
    · simp [numbers, hc] at hm
    · simpa [numbers, hc, rootArcs, arcs, arcs.go] using hm
  rw [hzero, Nat.zero_div] at hk
  omega

/-- The text of an identifier starts with that of an arc if the numbers are those of the arc up to
the last one, whose decimal digits may go on. -/
theorem dottedStartsWith_iff {oid : Oid} {parent : List Nat} {n : Nat} (hp : parent ≠ [])
    (hn : 0 < n) :
    oid.dottedStartsWith (dottedText (parent ++ [n])) = true ↔ oid.IsMarked parent n := by
  rw [dottedStartsWith, List.isPrefixOf_iff_prefix]
  by_cases hplain : oid.IsNumbered ∧ oid.content ≠ [] ∧ oid.content ≠ [0]
  · obtain ⟨hnum, hne, hz⟩ := hplain
    rw [dotted_of_isNumbered hnum hne hz, toList_dottedText, toList_dottedText,
      intercalate_prefix_iff]
    constructor
    · rintro ⟨m, rest, he, h⟩
      exact ⟨hnum, m, rest, he, exists_div_of_toDigits_prefix m h⟩
    · rintro ⟨-, m, rest, he, k, hk⟩
      exact ⟨m, rest, he, toDigits_prefix_of_div hn hk⟩
  · have hother : ¬ oid.IsNumbered ∨ oid.content = [] ∨ oid.content = [0] := by
      by_contra hnot
      simp only [not_or, not_not] at hnot
      exact hplain hnot
    obtain ⟨p, rest, rfl⟩ := List.exists_cons_of_ne_nil hp
    constructor
    · intro h
      have hpoint : '.' ∈ (dottedText (p :: rest ++ [n])).toList := by
        rw [toList_dottedText, List.cons_append, intercalate_cons _ _ (by simp)]
        simp
      exact absurd (h.subset hpoint) (point_not_mem_dotted hother)
    · intro h
      rcases hother with hnum | hc
      · exact absurd h.1 hnum
      · exact absurd h (not_isMarked_of_zero hc hn)

theorem isMarked_iff {oid : Oid} {parent : List Nat} {n : Nat} :
    oid.IsMarked parent n
      ↔ oid.IsNumbered ∧ parent ++ [n] <+: oid.numbers ∨ oid.IsBeside parent n := by
  constructor
  · rintro ⟨hnum, m, rest, he, hk⟩
    by_cases hm : m = n
    · subst hm
      refine .inl ⟨hnum, rest, ?_⟩
      rw [he, List.append_assoc, List.singleton_append]
    · exact .inr ⟨hnum, m, rest, he, hm, hk⟩
  · rintro (⟨hnum, rest, he⟩ | ⟨hnum, m, rest, he, -, hk⟩)
    · refine ⟨hnum, n, rest, ?_, 0, by rw [Nat.pow_zero, Nat.div_one]⟩
      rw [← he, List.append_assoc, List.singleton_append]
    · exact ⟨hnum, m, rest, he, hk⟩

end Oid

/-! ### The field arcs -/

/-- The field arc of an ecosystem: the numbers of its authority, and the one below them. -/
def Ecosystem.fieldArc? : Ecosystem → Option (List Nat × Nat)
  | .bancoCentral => some ([1, 3, 6, 1, 4, 1, 37947], 3)
  | .bancoCentralTest => some ([1, 3, 6, 1, 4, 1, 37947], 3)
  | .securityData => some ([1, 3, 6, 1, 4, 1, 37746], 3)
  | .securityDataLegacy => some ([1, 3, 6, 1, 4, 1, 37746], 1)
  | .unknown => none

/-- The marker is the text of the field arc. -/
theorem Ecosystem.exists_profile_of_fieldArc? {e : Ecosystem} {parent : List Nat} {n : Nat}
    (h : e.fieldArc? = some (parent, n)) :
    parent ≠ [] ∧ 0 < n ∧ ∃ p, e.profile? = some p ∧ p.marker = dottedText (parent ++ [n]) := by
  cases e <;> first
    | cases h
      refine ⟨by decide, by decide, _, rfl, ?_⟩
      decide +kernel
    | cases h

namespace Certificate

variable {c : Certificate} {e : Ecosystem} {parent : List Nat} {n : Nat}

/-- Whether an extension lies under an arc, as the arc itself or below it. -/
def HasFieldUnder (c : Certificate) (arc : List Nat) : Prop :=
  ∃ x ∈ c.extensions, arc <+: x.name.numbers

/-- Whether an extension lies beside an arc, under a number of more digits. -/
def HasFieldBeside (c : Certificate) (parent : List Nat) (n : Nat) : Prop :=
  ∃ x ∈ c.extensions, x.name.IsBeside parent n

/-- Whether the issuer is one of the hierarchy of an ecosystem, as far as its name tells. -/
def FitsHierarchy (c : Certificate) : Ecosystem → Prop
  | .bancoCentral => c.isTestIssuer = false
  | .bancoCentralTest => c.isTestIssuer = true
  | _ => True

theorem hasMarker_iff {p : Profile} (hm : p.marker = dottedText (parent ++ [n]))
    (hp : parent ≠ []) (hn : 0 < n) :
    c.hasMarker p = true ↔ ∃ x ∈ c.extensions, x.name.IsMarked parent n := by
  rw [hasMarker, List.any_eq_true, hm]
  simp only [Oid.dottedStartsWith_iff hp hn]

theorem looksLike_iff (h : e.fieldArc? = some (parent, n)) : c.looksLike e = true ↔
    c.FitsHierarchy e ∧ ∃ x ∈ c.extensions, x.name.IsMarked parent n := by
  obtain ⟨hp, hn, p, hprofile, hm⟩ := Ecosystem.exists_profile_of_fieldArc? h
  rw [← hasMarker_iff hm hp hn]
  simp only [looksLike, hprofile, Bool.and_eq_true]
  rw [and_comm]
  refine and_congr_left fun _ => ?_
  cases e <;> simp [FitsHierarchy]

theorem hasField_of_looksLike (h : e.fieldArc? = some (parent, n)) (hl : c.looksLike e = true) :
    c.HasFieldUnder (parent ++ [n]) ∨ c.HasFieldBeside parent n := by
  obtain ⟨-, x, hx, hmarked⟩ := (looksLike_iff h).1 hl
  rcases Oid.isMarked_iff.1 hmarked with ⟨-, hunder⟩ | hbeside
  · exact .inl ⟨x, hx, hunder⟩
  · exact .inr ⟨x, hx, hbeside⟩

theorem looksLike_of_hasFieldBeside (h : e.fieldArc? = some (parent, n)) (hf : c.FitsHierarchy e)
    (hb : c.HasFieldBeside parent n) : c.looksLike e = true := by
  obtain ⟨x, hx, hbeside⟩ := hb
  exact (looksLike_iff h).2 ⟨hf, x, hx, Oid.isMarked_iff.2 (.inr hbeside)⟩

/-- An extension that has the numbers of the authority lies under its field arc or not beside it. -/
theorem not_hasFieldBeside (h : ∀ x ∈ c.extensions, parent <+: x.name.numbers →
    parent ++ [n] <+: x.name.numbers) : ¬ c.HasFieldBeside parent n := by
  rintro ⟨x, hx, -, m, rest, he, hm, -⟩
  obtain ⟨rest', he'⟩ := h x hx ⟨m :: rest, he.symm⟩
  rw [he, List.append_assoc] at he'
  exact hm (List.cons.inj (List.append_cancel_left he')).1.symm

theorem looksLike_of_classify {holder : HolderType} (h : c.classify = .ok (e, holder)) :
    c.looksLike e = true :=
  List.find?_some (classify_eq_ok_iff.1 h).1

end Certificate

/-- A validation that asks a server is about a certificate that was classified, and its verdict, if
it comes to one, is on its ecosystem. -/
theorem Validator.classifyEncoded_of_asked [CryptoLibrary] {v : Validator}
    {random certificate : Bytes} {σ : Type} {servers : (q : Question) → σ → q.Answer × σ} {s : σ}
    (h : ((v.validate random certificate).run servers s).2.1 ≠ []) :
    ∃ e holder, classifyEncoded certificate = .ok (e, holder)
      ∧ ∀ verdict, ((v.validate random certificate).run servers s).1 = some verdict →
        verdict.ecosystem = e := by
  rcases hr : ((v.validate random certificate).run servers s).1 with _ | verdict
  · obtain ⟨e, holder, -, hc, -⟩ := validate_breaksOff (Inquiry.breaksOff_transcript servers hr)
    exact ⟨e, holder, hc, nofun⟩
  rw [Inquiry.run_asked] at h
  rcases validate_yields_cases (Inquiry.yields_transcript servers hr) with
    ⟨hes, -⟩ | ⟨-, -, hc, -⟩
  · exact absurd (by rw [hes, List.map_nil]) h
  · exact ⟨_, _, hc, fun _ hv => by rw [Option.some.inj hv]⟩

open Certificate in
/-- A certificate looks like one of an ecosystem exactly if its issuer fits and an extension has the
numbers of the field arc, of which the last may be continued by further digits.  So it takes no
extension under the arc exactly where the issuer fits and an extension lies beside the arc; without
one of these, a certificate that is classified, and one for which servers are asked, has an
extension under the field arc of its ecosystem. -/
theorem looksLike_by_digits [CryptoLibrary] {e : Ecosystem} {parent : List Nat} {n : Nat}
    (he : e.fieldArc? = some (parent, n)) :
    (∃ p, e.profile? = some p ∧ p.marker = dottedText (parent ++ [n]))
    ∧ (∀ c : Certificate, c.looksLike e = true ↔
      c.FitsHierarchy e ∧ ∃ x ∈ c.extensions, x.name.IsMarked parent n)
    ∧ (∀ c : Certificate, (c.looksLike e = true → c.HasFieldUnder (parent ++ [n])) ↔
      ¬ (c.FitsHierarchy e ∧ c.HasFieldBeside parent n ∧ ¬ c.HasFieldUnder (parent ++ [n])))
    ∧ ∀ c : Certificate, ¬ c.HasFieldBeside parent n →
      (∀ holder, c.classify = .ok (e, holder) → c.HasFieldUnder (parent ++ [n]))
      ∧ ∀ (v : Validator) (random certificate : Bytes), decode? certificate = some c →
        ∀ {σ : Type} (servers : (q : Question) → σ → q.Answer × σ) (s : σ),
        ((v.validate random certificate).run servers s).2.1 ≠ [] →
        ∃ e' holder, c.classify = .ok (e', holder)
          ∧ (∀ verdict, ((v.validate random certificate).run servers s).1 = some verdict →
            verdict.ecosystem = e')
          ∧ (e' = e → c.HasFieldUnder (parent ++ [n])) := by
  obtain ⟨-, -, hprofile⟩ := Ecosystem.exists_profile_of_fieldArc? he
  have hunder : ∀ c : Certificate, ¬ c.HasFieldBeside parent n → ∀ holder,
      c.classify = .ok (e, holder) → c.HasFieldUnder (parent ++ [n]) := by
    intro c hbeside holder hc
    rcases hasField_of_looksLike he (looksLike_of_classify hc) with h | h
    · exact h
    · exact absurd h hbeside
  refine ⟨hprofile, fun c => looksLike_iff he, fun c => ⟨?_, ?_⟩, fun c hbeside =>
    ⟨hunder c hbeside, ?_⟩⟩
  · rintro h ⟨hf, hb, hnot⟩
    exact hnot (h (looksLike_of_hasFieldBeside he hf hb))
  · intro h hl
    rcases hasField_of_looksLike he hl with hu | hb
    · exact hu
    · by_contra hnot
      exact h ⟨((looksLike_iff he).1 hl).1, hb, hnot⟩
  · intro v random certificate hd σ servers s hasked
    obtain ⟨e', holder, hclass, hverdict⟩ := Validator.classifyEncoded_of_asked hasked
    rw [Validator.classifyEncoded_of_decode hd] at hclass
    exact ⟨e', holder, hclass, hverdict, fun heq => hunder c hbeside holder (heq ▸ hclass)⟩

theorem looksLike_by_digits_of_sample :
    ∃ c, Certificate.decode? sampleCertificate = some c
      ∧ ¬ c.HasFieldBeside [1, 3, 6, 1, 4, 1, 37746] 3
      ∧ ((Validator.sampleValidator.validate Validator.sampleRandom sampleCertificate).run
        Validator.sampleServers ()).2.1 ≠ []
      ∧ c.HasFieldUnder ([1, 3, 6, 1, 4, 1, 37746] ++ [3]) := by
  obtain ⟨c, hc⟩ : ∃ c, Certificate.decode? sampleCertificate = some c :=
    Option.isSome_iff_exists.1 (by decide +kernel)
  have hbeside : ¬ c.HasFieldBeside [1, 3, 6, 1, 4, 1, 37746] 3 := by
    refine Certificate.not_hasFieldBeside ?_
    have hall : ∀ c ∈ Certificate.decode? sampleCertificate, ∀ x ∈ c.extensions,
        [1, 3, 6, 1, 4, 1, 37746] <+: x.name.numbers →
        [1, 3, 6, 1, 4, 1, 37746] ++ [3] <+: x.name.numbers := by
      decide +kernel
    exact hall c hc
  obtain ⟨hasked, hrun⟩ :
      ((Validator.sampleValidator.validate Validator.sampleRandom sampleCertificate).run
        Validator.sampleServers ()).2.1 ≠ []
      ∧ ((Validator.sampleValidator.validate Validator.sampleRandom sampleCertificate).run
        Validator.sampleServers ()).1
        = some ⟨.securityData, .naturalPerson, .valid, some .responder⟩ := by
    decide +kernel
  obtain ⟨e', holder, -, hverdict, hunder⟩ :=
    ((@looksLike_by_digits _ .securityData _ _ rfl).2.2.2 c hbeside).2 _ _ _ hc _ _ hasked
  exact ⟨c, hc, hbeside, hasked, hunder (hverdict _ hrun).symm⟩

/-- The sample certificate, its field moved from the arc that ends in 3 to the one that ends
in 30. -/
def besideCertificate : Bytes :=
  sampleCertificate.set 203 30

/-- With its only field beside the arc a certificate is classified and its status is asked for. -/
theorem besideCertificate_is_validated :
    ∃ c, Certificate.decode? besideCertificate = some c
      ∧ ¬ c.HasFieldUnder [1, 3, 6, 1, 4, 1, 37746, 3] ∧ c.looksLike .securityData = true
      ∧ c.classify = .ok (.securityData, .naturalPerson)
      ∧ ((Validator.sampleValidator.validate Validator.sampleRandom besideCertificate).run
        Validator.sampleServers ()).2.1 ≠ []
      ∧ ((Validator.sampleValidator.validate Validator.sampleRandom besideCertificate).run
        Validator.sampleServers ()).1
        = some ⟨.securityData, .naturalPerson, .valid, some .responder⟩ := by
  obtain ⟨c, hc⟩ : ∃ c, Certificate.decode? besideCertificate = some c :=
    Option.isSome_iff_exists.1 (by decide +kernel)
  have hall : ∀ c ∈ Certificate.decode? besideCertificate,
      (∀ x ∈ c.extensions, ¬ [1, 3, 6, 1, 4, 1, 37746, 3] <+: x.name.numbers)
        ∧ c.looksLike .securityData = true
        ∧ c.classify = .ok (.securityData, .naturalPerson) := by
    decide +kernel
  obtain ⟨hunder, hlooks, hclass⟩ := hall c hc
  refine ⟨c, hc, ?_, hlooks, hclass, by decide +kernel⟩
  rintro ⟨x, hx, h⟩
  exact hunder x hx h

end SignerTrust
