import Mathlib.Tactic.Common
import SignerTrust.Proofs.Element
import SignerTrust.Status.Response

/-!
# What canonical readers take off

A canonical reader in steps succeeds exactly if its steps do, one after the other (`run_bind`), and
the reader of a structure exactly if the next element has the right tag and its content is read to
the end (`run_constructed`).  Such a reader sees nothing of what follows its element
(`run_sequence_slice`).
-/

namespace SignerTrust.Canonical.Reader

open Der

variable {α β : Type}

theorem run_pure {a x : α} {bytes rest : Bytes} :
    run (pure a) bytes = (some x, rest) ↔ x = a ∧ rest = bytes := by
  constructor
  · intro h
    cases h
    exact ⟨rfl, rfl⟩
  · rintro ⟨rfl, rfl⟩
    rfl

theorem run_failure {bytes : Bytes} : run (failure : Reader α) bytes = (none, bytes) := rfl

theorem run_bind_eq {r : Reader α} {f : α → Reader β} {bytes : Bytes} :
    run (r >>= f) bytes = match run r bytes with
      | (some a, rest) => run (f a) rest
      | (none, rest) => (none, rest) := by
  change (StateT.run (OptionT.run (r >>= f)) bytes) = _
  rw [OptionT.run_bind]
  rcases h : run r bytes with ⟨_ | a, rest⟩ <;>
    simp only [run] at h <;>
    simp only [Option.elimM, StateT.run_bind, h] <;> rfl

/-- A reader in two steps succeeds if the second reads on where the first has stopped. -/
theorem run_bind {r : Reader α} {f : α → Reader β} {bytes rest : Bytes} {b : β} :
    run (r >>= f) bytes = (some b, rest) ↔
      ∃ a mid, run r bytes = (some a, mid) ∧ run (f a) mid = (some b, rest) := by
  rw [run_bind_eq]
  rcases run r bytes with ⟨_ | a, mid⟩
  · simp
  · constructor
    · intro h
      exact ⟨a, mid, rfl, h⟩
    · rintro ⟨a', mid', h, h'⟩
      simp only [Prod.mk.injEq, Option.some.injEq] at h
      obtain ⟨rfl, rfl⟩ := h
      exact h'

theorem run_of (f : Bytes → Option α × Bytes) (bytes : Bytes) : run (of f) bytes = f bytes := rfl

theorem run_anything {bytes rest : Bytes} {e : Element} :
    run anything bytes = (some e, rest) ↔ Element.read? bytes = some (e, rest) := by
  rw [anything, run_of]
  rcases Element.read? bytes with _ | ⟨e', rest'⟩ <;> simp

theorem run_element {cls : TagClass} {tag : Nat} {bytes rest : Bytes} {e : Element} :
    run (element cls tag) bytes = (some e, rest) ↔
      Element.read? bytes = some (e, rest) ∧ e.tagClass = cls ∧ e.tag = tag := by
  rw [element, run_of]
  rcases Element.read? bytes with _ | ⟨e', rest'⟩
  · simp
  simp only []
  split_ifs with h
  · simp only [Prod.mk.injEq, Option.some.injEq]
    constructor
    · rintro ⟨rfl, rfl⟩
      exact ⟨⟨rfl, rfl⟩, h⟩
    · rintro ⟨⟨rfl, rfl⟩, -⟩
      exact ⟨rfl, rfl⟩
  · simp only [Prod.mk.injEq, reduceCtorEq, false_and, false_iff, Option.some.injEq]
    rintro ⟨⟨rfl, rfl⟩, h'⟩
    exact h h'

theorem run_filling {r : Reader α} {content bytes rest : Bytes} {x : α} :
    run (filling r content) bytes = (some x, rest) ↔
      run r content = (some x, []) ∧ rest = bytes := by
  unfold filling
  split
  · rename_i y hy
    rw [run_pure, hy]
    simp [eq_comm]
  · rename_i hn
    rw [run_failure]
    simp only [Prod.mk.injEq, reduceCtorEq, false_and, false_iff, not_and]
    intro h
    exact absurd h (hn x)

theorem run_filling_of_not {r : Reader α} {content : Bytes}
    (h : ∀ x, run r content ≠ (some x, [])) (bytes : Bytes) :
    run (filling r content) bytes = (none, bytes) := by
  unfold filling
  split
  · rename_i x hx
    exact absurd hx (h x)
  · rfl

theorem snd_run_filling (r : Reader α) (content bytes : Bytes) :
    (run (filling r content) bytes).2 = bytes := by
  unfold filling
  split <;> rfl

/-- A structure is read if it stands next, in the right form, and is used up. -/
theorem run_constructed {cls : TagClass} {tag : Nat} {r : Reader α} {bytes rest : Bytes} {x : α} :
    run (constructed cls tag r) bytes = (some x, rest) ↔
      ∃ e, Element.read? bytes = some (e, rest) ∧ e.tagClass = cls ∧ e.tag = tag
        ∧ e.constructed = true ∧ run r e.content = (some x, []) := by
  rw [constructed, run_bind]
  constructor
  · rintro ⟨e, mid, he, h⟩
    obtain ⟨he, hc, ht⟩ := run_element.1 he
    split at h
    · rename_i hcons
      obtain ⟨hr, rfl⟩ := run_filling.1 h
      exact ⟨e, he, hc, ht, hcons, hr⟩
    · cases h
  · rintro ⟨e, he, hc, ht, hcons, h⟩
    refine ⟨e, rest, run_element.2 ⟨he, hc, ht⟩, ?_⟩
    rw [if_pos hcons]
    exact run_filling.2 ⟨h, rfl⟩

/-- The bytes of a sequence that was read are enough to read it. -/
theorem run_sequence_slice {r : Reader α} {bytes rest : Bytes} {x : α}
    (h : run (sequence r) bytes = (some x, rest)) :
    ∃ e, Element.read? bytes = some (e, rest) ∧ bytes = e.encoding ++ rest
      ∧ run (sequence r) e.encoding = (some x, []) := by
  obtain ⟨e, he, hc, ht, hcons, hr⟩ := run_constructed.1 h
  obtain ⟨hb, -, hs⟩ := Element.read?_slice he
  refine ⟨e, he, hb, run_constructed.2 ⟨e, ?_, hc, ht, hcons, hr⟩⟩
  simpa using hs []

theorem decode?_eq_some {r : Reader α} {bytes : Bytes} {x : α} :
    r.decode? bytes = some x ↔ ∃ rest, run r bytes = (some x, rest) := by
  rw [decode?]
  constructor
  · intro h
    exact ⟨(run r bytes).2, Prod.ext h rfl⟩
  · rintro ⟨rest, h⟩
    rw [h]

end SignerTrust.Canonical.Reader
