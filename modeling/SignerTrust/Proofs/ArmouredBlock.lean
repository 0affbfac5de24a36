import Mathlib.Tactic.Common
import SignerTrust.TrustAnchor.Armour

/-!
# Texts with one block

The blocks of a text are cut off its lines one after the other.  Bytes hold just one block, and that
one with a content, if all their lines are texts, some line begins a block and is labelled, the next
line that ends a block closes it, what stands between decodes, and no line outside begins a block
(`HoldsOne`, `blocks_eq_singleton_iff`).  A second beginning is a second block, also where it is
broken, and so is a line outside that is no text.
-/

namespace SignerTrust.Armour

/-- Lines that are texts, of which none begins a block. -/
def Plain (ls : List (Option (List Char))) : Prop :=
  ∃ texts : List (List Char), ls = texts.map some ∧ ∀ l ∈ texts, ¬ beginMark <+: l

/-- Whether bytes are the lines of a text that holds one block, and that with a content. -/
def HoldsOne (bytes : Bytes) (content : Bytes) : Prop :=
  ∃ before header inner footer after,
    textLines bytes = (before ++ header :: (inner ++ footer :: after)).map some
    ∧ (∀ l ∈ before, ¬ beginMark <+: l) ∧ beginMark <+: header
    ∧ hasInfix dashes (header.drop beginMark.length) = true
    ∧ (∀ l ∈ inner, ¬ endMark <+: l) ∧ endMark <+: footer
    ∧ Base64.decode? (inner.flatMap trimEnd) = some content
    ∧ ∀ l ∈ after, ¬ beginMark <+: l

@[simp] theorem plain_nil : Plain [] := ⟨[], rfl, List.forall_mem_nil _⟩

@[simp] theorem not_plain_none {ls : List (Option (List Char))} : ¬ Plain (none :: ls) := by
  rintro ⟨_ | ⟨l, texts⟩, h, -⟩ <;> cases h

@[simp] theorem plain_some {l : List Char} {ls : List (Option (List Char))} :
    Plain (some l :: ls) ↔ ¬ beginMark <+: l ∧ Plain ls := by
  constructor
  · rintro ⟨_ | ⟨l', texts⟩, h, hp⟩
    · cases h
    · cases h
      obtain ⟨hl, hp⟩ := List.forall_mem_cons.1 hp
      exact ⟨hl, texts, rfl, hp⟩
  · rintro ⟨hl, texts, rfl, hp⟩
    exact ⟨l :: texts, rfl, List.forall_mem_cons.2 ⟨hl, hp⟩⟩

theorem body_eq_some_iff : ∀ {ls rest : List (Option (List Char))} {text : List Char},
    body ls = (some text, rest) ↔ ∃ (inner : List (List Char)) (footer : List Char),
      ls = inner.map some ++ some footer :: rest
      ∧ (∀ l ∈ inner, ¬ endMark <+: l) ∧ endMark <+: footer ∧ text = inner.flatMap trimEnd
  | [], rest, text => by simp [body]
  | none :: ls, rest, text => by
    constructor
    · intro h
      cases h
    · rintro ⟨_ | ⟨l, inner⟩, footer, h, -⟩ <;> cases h
  | some l :: ls, rest, text => by
    unfold body
    split_ifs with hl <;> rw [List.isPrefixOf_iff_prefix] at hl
    · constructor
      · intro h
        cases h
        exact ⟨[], l, rfl, by simp, hl, rfl⟩
      · rintro ⟨_ | ⟨l', inner⟩, footer, h, hi, hf, rfl⟩
        · cases h
          rfl
        · cases h
          exact absurd hl (hi l (by simp))
    · constructor
      · intro h
        obtain ⟨ht, hr⟩ := Prod.mk.inj h
        obtain ⟨t, hb, rfl⟩ := Option.map_eq_some_iff.1 ht
        obtain ⟨inner, footer, rfl, hi, hf, rfl⟩ := body_eq_some_iff.1 (Prod.ext hb hr)
        exact ⟨l :: inner, footer, rfl, List.forall_mem_cons.2 ⟨hl, hi⟩, hf, rfl⟩
      · rintro ⟨_ | ⟨l', inner⟩, footer, h, hi, hf, rfl⟩
        · cases h
          exact absurd hf hl
        · cases h
          have hb : body (inner.map some ++ some footer :: rest)
              = (some (inner.flatMap trimEnd), rest) :=
            body_eq_some_iff.2 ⟨inner, footer, rfl, (List.forall_mem_cons.1 hi).2, hf, rfl⟩
          simp only [List.append_eq, hb, Option.map_some, List.flatMap_cons]

/-- A block with a content is labelled, closed and readable. -/
theorem block_eq_bytes_iff {header : List Char} {ls rest : List (Option (List Char))}
    {content : Bytes} :
    block header ls = (.bytes content, rest) ↔
      hasInfix dashes (header.drop beginMark.length) = true
      ∧ ∃ text, body ls = (some text, rest) ∧ Base64.decode? text = some content := by
  unfold block
  split_ifs with hd
  · simp_all
  · rcases hb : body ls with ⟨_ | text, r⟩
    · simp
    · rcases hc : Base64.decode? text with _ | c <;> simp_all
      tauto

theorem length_body_le : ∀ ls : List (Option (List Char)), (body ls).2.length ≤ ls.length
  | [] => Nat.le_refl _
  | none :: ls => Nat.le_succ _
  | some l :: ls => by
    unfold body
    split_ifs
    · exact Nat.le_succ _
    · exact Nat.le_succ_of_le (length_body_le ls)

theorem length_block_le (header : List Char) (ls : List (Option (List Char))) :
    (block header ls).2.length ≤ ls.length := by
  unfold block
  split_ifs
  · exact Nat.le_refl _
  · dsimp only
    split <;> exact length_body_le ls

theorem go_eq_nil_iff : ∀ {fuel : Nat} {ls : List (Option (List Char))}, ls.length ≤ fuel →
    (blocks.go fuel ls = [] ↔ Plain ls)
  | 0, [], _ | _ + 1, [], _ => by simp [blocks.go]
  | fuel + 1, none :: ls, _ => by simp [blocks.go]
  | fuel + 1, some l :: ls, h => by
    have ih := go_eq_nil_iff (Nat.le_of_succ_le_succ h)
    unfold blocks.go
    split_ifs with hl <;> rw [List.isPrefixOf_iff_prefix] at hl
    · simp [hl]
    · simp [hl, ih]

/-- One block with a content is that of the only line outside of it which begins one. -/
theorem go_eq_singleton_iff {content : Bytes} :
    ∀ {fuel : Nat} {ls : List (Option (List Char))}, ls.length ≤ fuel →
    (blocks.go fuel ls = [.bytes content] ↔ ∃ (before : List (List Char)) (header : List Char)
      (rest after : List (Option (List Char))), ls = before.map some ++ some header :: rest
      ∧ (∀ l ∈ before, ¬ beginMark <+: l)
      ∧ beginMark <+: header ∧ block header rest = (.bytes content, after) ∧ Plain after)
  | 0, [], _ | _ + 1, [], _ => by simp [blocks.go]
  | fuel + 1, none :: ls, _ => by
    constructor
    · intro h
      cases (List.cons.inj h).1
    · rintro ⟨_ | ⟨l, before⟩, header, rest, after, h, -⟩ <;> cases h
  | fuel + 1, some l :: ls, h => by
    have hfuel : ls.length ≤ fuel := Nat.le_of_succ_le_succ h
    unfold blocks.go
    split_ifs with hl <;> rw [List.isPrefixOf_iff_prefix] at hl
    · have hrest := go_eq_nil_iff (Nat.le_trans (length_block_le l ls) hfuel)
      rw [List.cons.injEq, hrest]
      constructor
      · rintro ⟨hb, ha⟩
        exact ⟨[], l, ls, _, rfl, by simp, hl, Prod.ext hb rfl, ha⟩
      · rintro ⟨_ | ⟨l', before⟩, header, rest, after, he, hbefore, hh, hb, ha⟩
        · cases he
          rw [hb]
          exact ⟨rfl, ha⟩
        · cases he
          exact absurd hl (hbefore l (by simp))
    · rw [go_eq_singleton_iff hfuel]
      constructor
      · rintro ⟨before, header, rest, after, rfl, hb, h⟩
        exact ⟨l :: before, header, rest, after, rfl, List.forall_mem_cons.2 ⟨hl, hb⟩, h⟩
      · rintro ⟨_ | ⟨l', before⟩, header, rest, after, he, hb, hh, h'⟩
        · cases he
          exact absurd hh hl
        · cases he
          exact ⟨before, header, rest, after, rfl, (List.forall_mem_cons.1 hb).2, hh, h'⟩

theorem blocks_eq_singleton_iff {bytes content : Bytes} :
    blocks bytes = [.bytes content] ↔ HoldsOne bytes content := by
  unfold blocks HoldsOne
  rw [go_eq_singleton_iff (Nat.le_refl _)]
  constructor
  · rintro ⟨before, header, ls, rest, he, hb, hh, hc, after, rfl, ha⟩
    obtain ⟨hd, t, ht, hx⟩ := block_eq_bytes_iff.1 hc
    obtain ⟨inner, footer, rfl, hi, hf, rfl⟩ := body_eq_some_iff.1 ht
    refine ⟨before, header, inner, footer, after, ?_, hb, hh, hd, hi, hf, hx, ha⟩
    simpa using he
  · rintro ⟨before, header, inner, footer, after, he, hb, hh, hd, hi, hf, hx, ha⟩
    refine ⟨before, header, (inner ++ footer :: after).map some, after.map some, by simpa using he,
      hb, hh, block_eq_bytes_iff.2 ⟨hd, _, body_eq_some_iff.2 ?_, hx⟩, after, rfl, ha⟩
    exact ⟨inner, footer, by simp, hi, hf, rfl⟩

end SignerTrust.Armour
