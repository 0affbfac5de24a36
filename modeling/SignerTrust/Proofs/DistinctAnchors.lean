import Mathlib.Data.List.Nodup
import SignerTrust.TrustAnchor.Registry

/-!
# Anchors without repetition

Anchors are gone through in order, and one whose certificate was seen before is left out.  What is
left are some of the anchors in their order (`distinct_sublist`), each certificate of theirs is
still there (`mem_encodings_distinct`), and none is there twice (`nodup_encodings_distinct`).
-/

namespace SignerTrust.Registry

/-- Puts an anchor at the end, unless its certificate is there already. -/
def addNew (seen : List TrustAnchor) (a : TrustAnchor) : List TrustAnchor :=
  if seen.any fun b => b.encoding = a.encoding then seen else seen ++ [a]

theorem distinct_eq (anchors : List TrustAnchor) : distinct anchors = anchors.foldl addNew [] := rfl

theorem any_encoding_iff {seen : List TrustAnchor} {a : TrustAnchor} :
    (seen.any fun b => b.encoding = a.encoding) = true
      ↔ a.encoding ∈ seen.map (·.encoding) := by
  simp

theorem mem_encodings_addNew (seen : List TrustAnchor) (a : TrustAnchor) (bytes : Bytes) :
    bytes ∈ (addNew seen a).map (·.encoding)
      ↔ bytes ∈ seen.map (·.encoding) ∨ bytes = a.encoding := by
  unfold addNew
  split_ifs with h
  · rw [any_encoding_iff] at h
    constructor
    · exact .inl
    · rintro (h' | rfl)
      · exact h'
      · exact h
  · simp

theorem nodup_encodings_addNew {seen : List TrustAnchor} (h : (seen.map (·.encoding)).Nodup)
    (a : TrustAnchor) : ((addNew seen a).map (·.encoding)).Nodup := by
  unfold addNew
  split_ifs with ha
  · exact h
  · rw [any_encoding_iff] at ha
    simpa using List.Nodup.concat ha h

theorem mem_encodings_foldl : ∀ (anchors seen : List TrustAnchor) (bytes : Bytes),
    bytes ∈ (anchors.foldl addNew seen).map (·.encoding)
      ↔ bytes ∈ seen.map (·.encoding) ∨ bytes ∈ anchors.map (·.encoding)
  | [], seen, bytes => by simp
  | a :: anchors, seen, bytes => by
    rw [List.foldl_cons, mem_encodings_foldl anchors, mem_encodings_addNew, List.map_cons,
      List.mem_cons, or_assoc]

theorem nodup_encodings_foldl : ∀ (anchors : List TrustAnchor) {seen : List TrustAnchor},
    (seen.map (·.encoding)).Nodup → ((anchors.foldl addNew seen).map (·.encoding)).Nodup
  | [], _, h => h
  | a :: anchors, _, h => nodup_encodings_foldl anchors (nodup_encodings_addNew h a)

/-- Anchors are added behind those seen before, in the order in which they come. -/
theorem foldl_addNew_eq : ∀ (anchors seen : List TrustAnchor),
    ∃ added, anchors.foldl addNew seen = seen ++ added ∧ added.Sublist anchors
  | [], seen => ⟨[], by simp⟩
  | a :: anchors, seen => by
    rw [List.foldl_cons]
    obtain ⟨added, he, hs⟩ := foldl_addNew_eq anchors (addNew seen a)
    rw [he]
    unfold addNew
    split_ifs
    · exact ⟨added, rfl, hs.cons a⟩
    · exact ⟨a :: added, by simp, hs.cons_cons a⟩

theorem mem_encodings_distinct {anchors : List TrustAnchor} {bytes : Bytes} :
    bytes ∈ (distinct anchors).map (·.encoding) ↔ bytes ∈ anchors.map (·.encoding) := by
  rw [distinct_eq, mem_encodings_foldl]
  simp

theorem nodup_encodings_distinct (anchors : List TrustAnchor) :
    ((distinct anchors).map (·.encoding)).Nodup :=
  nodup_encodings_foldl anchors (by simp)

theorem distinct_sublist (anchors : List TrustAnchor) : (distinct anchors).Sublist anchors := by
  obtain ⟨added, he, hs⟩ := foldl_addNew_eq anchors []
  rw [distinct_eq, he, List.nil_append]
  exact hs

/-- Anchors of a list in two parts: those of the first part come first. -/
theorem distinct_append (anchors more : List TrustAnchor) :
    ∃ added, distinct (anchors ++ more) = distinct anchors ++ added ∧ added.Sublist more := by
  rw [distinct_eq, List.foldl_append]
  exact foldl_addNew_eq more _

end SignerTrust.Registry
