import Mathlib.Data.List.Infix
import Mathlib.Tactic.Common
import SignerTrust.Revocation.Walk

/-!
# Which points are visited, and how

A point is passed over if `ocsp` occurs in its text (`isResponder_iff`).  The others are told apart
by their schemes: the name before `://`, whose letters may be of either case (`scheme_eq_iff`).
-/

namespace SignerTrust

theorem hasInfix_iff {α : Type} [BEq α] [LawfulBEq α] {part : List α} :
    ∀ {xs : List α}, hasInfix part xs = true ↔ part <:+: xs
  | [] => by simp [hasInfix]
  | x :: xs => by
    have ih := @hasInfix_iff α _ _ part xs
    simp only [hasInfix, Bool.or_eq_true, List.isPrefixOf_iff_prefix, ih, List.infix_cons_iff]

namespace DistributionPoint

theorem isResponder_iff {point : String} :
    isResponder point = true ↔ "ocsp".toList <:+: point.toList :=
  hasInfix_iff

/-- The points that may have a revocation list, in order. -/
def usable (points : List String) : List String :=
  points.filter fun p => ¬ "ocsp".toList <:+: p.toList

theorem usable_singleton {point : String} (h : ¬ "ocsp".toList <:+: point.toList) :
    usable [point] = [point] := List.filter_cons_of_pos (by simpa using h)

/-- Whether a point has a scheme, written in letters of either case. -/
def HasScheme (point scheme : String) : Prop :=
  ∃ before after, point.toList = before ++ ':' :: '/' :: '/' :: after
    ∧ before.map Char.toLower = scheme.toList

/-- Whether the list at a point is fetched by a request. -/
def IsWeb (point : String) : Prop :=
  HasScheme point "http" ∨ HasScheme point "https"

/-- Whether the list at a point is looked up in a directory. -/
def IsDirectory (point : String) : Prop :=
  HasScheme point "ldap" ∨ HasScheme point "ldaps"

theorem beforeMark_append : ∀ {before : List Char} (after : List Char), ':' ∉ before →
    beforeMark (before ++ ':' :: '/' :: '/' :: after) = some before
  | [], _, _ => rfl
  | c :: before, after, h => by
    simp only [List.mem_cons, not_or] at h
    have hc : c ≠ ':' := fun hc => h.1 hc.symm
    have ih := beforeMark_append after h.2
    rw [List.cons_append, beforeMark, ih, Option.map_some]
    rintro _ rfl
    exact absurd rfl hc

theorem beforeMark_eq_some : ∀ {text before : List Char}, beforeMark text = some before →
    ∃ after, text = before ++ ':' :: '/' :: '/' :: after
  | [], _, h => by cases h
  | c :: rest, before, h => by
    unfold beforeMark at h
    split at h
    · cases h
    · rename_i after heq
      cases heq
      cases h
      exact ⟨after, rfl⟩
    · rename_i heq
      cases heq
      obtain ⟨b, hb, rfl⟩ := Option.map_eq_some_iff.1 h
      obtain ⟨after, rfl⟩ := beforeMark_eq_some hb
      exact ⟨after, rfl⟩

theorem scheme_eq_iff {point name : String} (hn : name ≠ "") (hc : ':' ∉ name.toList) :
    scheme point = name ↔ HasScheme point name := by
  constructor
  · rintro rfl
    rcases hb : beforeMark point.toList with _ | before
    · simp [scheme, hb] at hn
    obtain ⟨after, ha⟩ := beforeMark_eq_some hb
    exact ⟨before, after, ha, by simp [scheme, hb]⟩
  · rintro ⟨before, after, hp, hl⟩
    have hm : ':' ∉ before := fun hm => hc (hl ▸ List.mem_map_of_mem (f := Char.toLower) hm)
    rw [scheme, hp, beforeMark_append after hm, Option.getD_some, hl, String.ofList_toList]

theorem isWeb_iff {point : String} :
    IsWeb point ↔ scheme point = "http" ∨ scheme point = "https" := by
  rw [IsWeb, scheme_eq_iff (by decide) (by decide), scheme_eq_iff (by decide) (by decide)]

theorem isDirectory_iff {point : String} :
    IsDirectory point ↔ scheme point = "ldap" ∨ scheme point = "ldaps" := by
  rw [IsDirectory, scheme_eq_iff (by decide) (by decide), scheme_eq_iff (by decide) (by decide)]

theorem IsDirectory.not_isWeb {point : String} (h : IsDirectory point) : ¬ IsWeb point := by
  rw [isWeb_iff]
  rcases isDirectory_iff.1 h with h | h <;> rw [h] <;> decide

end DistributionPoint

end SignerTrust
