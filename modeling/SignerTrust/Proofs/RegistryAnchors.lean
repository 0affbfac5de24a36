import Mathlib.Data.List.Forall2
import Mathlib.Tactic.Common
import SignerTrust.Classification
import SignerTrust.Proofs.ListResults
import SignerTrust.TrustAnchor.Registry

/-!
# Where anchors come from

Each anchor of a registry is made of one of the armoured certificates that the registry is built
from, for the same place, and keeps its bytes and its key (`ofArmoured_anchor`).  No place of a
known ecosystem is empty (`exists_anchor`), and certificates are classified into no other one.
-/

namespace SignerTrust

theorem TrustAnchor.ofEncoded_eq_ok {e : Ecosystem} {r : AnchorRole} {bytes : Bytes}
    {a : TrustAnchor} (h : ofEncoded e r bytes = .ok a) :
    ∃ c, Certificate.decode? bytes = some c ∧ a.ecosystem = e ∧ a.role = r ∧ a.encoding = bytes
      ∧ a.publicKey = c.publicKey.encoding := by
  unfold ofEncoded at h
  split at h
  · cases h
  · rename_i c hc
    cases h
    exact ⟨c, hc, rfl, rfl, rfl, rfl⟩

theorem TrustAnchor.ofEncoded_eq_getD {e : Ecosystem} {r : AnchorRole} {bytes : Bytes}
    (h : (Certificate.decode? bytes).isSome = true) (a : TrustAnchor) :
    ofEncoded e r bytes = .ok ((ofEncoded e r bytes).toOption.getD a) := by
  obtain ⟨c, hc⟩ := Option.isSome_iff_exists.1 h
  simp only [ofEncoded, hc, Except.toOption, Option.getD_some]

namespace Registry

theorem readEntry_eq_ok {e : Ecosystem} {r : AnchorRole} {armour : Bytes} {a : TrustAnchor}
    (h : readEntry (e, r, armour) = .ok a) :
    ∃ c, Armour.blocks armour = [.bytes a.encoding] ∧ Certificate.decode? a.encoding = some c
      ∧ a.ecosystem = e ∧ a.role = r ∧ a.publicKey = c.publicKey.encoding := by
  simp only [readEntry] at h
  split_ifs at h
  split at h
  · rename_i content hb
    obtain ⟨c, hc, he, hr, rfl, hk⟩ := TrustAnchor.ofEncoded_eq_ok h
    exact ⟨c, hb, hc, he, hr, hk⟩
  · cases h
  · cases h

/-- A registry is built if every certificate makes an anchor and every place is filled once. -/
theorem ofArmoured_eq_ok_iff {entries : List (Ecosystem × AnchorRole × Bytes)} {g : Registry} :
    ofArmoured entries = .ok g ↔ entries.mapM readEntry = .ok g.anchors
      ∧ ∀ p ∈ places, (matching g.anchors p.1 p.2).length = 1 := by
  unfold ofArmoured
  rcases entries.mapM readEntry with e | anchors
  · constructor
    · intro h
      cases h
    · rintro ⟨h, -⟩
      cases h
  simp only [bind, Except.bind]
  constructor
  · intro h
    split at h
    · cases h
    · rename_i hn
      cases h
      refine ⟨rfl, fun p hp => ?_⟩
      simpa using List.find?_eq_none.1 hn p hp
  · rintro ⟨ha, hp⟩
    cases ha
    split
    · rename_i e r hs
      have hne := List.find?_some hs
      simp only [hp (e, r) (List.mem_of_find?_eq_some hs)] at hne
      cases hne
    · rfl

theorem readEntry_of_blocks {e : Ecosystem} (he : e ≠ .unknown) (r : AnchorRole)
    {armour bytes : Bytes} (h : Armour.blocks armour = [.bytes bytes]) :
    readEntry (e, r, armour) = TrustAnchor.ofEncoded e r bytes := by
  simp only [readEntry, if_neg he, h]

/-- A registry whose places are filled in order. -/
theorem ofArmoured_places {armour : Ecosystem → AnchorRole → Bytes}
    {anchor : Ecosystem → AnchorRole → TrustAnchor}
    (h : ∀ p ∈ places, readEntry (p.1, p.2, armour p.1 p.2) = .ok (anchor p.1 p.2)) :
    ofArmoured (places.map fun (e, r) => (e, r, armour e r))
      = .ok ⟨places.map fun (e, r) => anchor e r⟩ := by
  have hm : ∀ ps : List (Ecosystem × AnchorRole), ps ⊆ places →
      (ps.map fun (e, r) => (e, r, armour e r)).mapM readEntry
        = .ok (ps.map fun (e, r) => anchor e r) := by
    intro ps hp
    induction ps with
    | nil => rfl
    | cons p ps ih =>
      obtain ⟨hp, hps⟩ := List.cons_subset.1 hp
      simp only [List.map_cons, List.mapM_cons, ih hps, h p hp]
      rfl
  refine ofArmoured_eq_ok_iff.2 ⟨hm places (List.Subset.refl places), fun p hp => ?_⟩
  have hf : ∀ q ∈ places, decide ((anchor q.1 q.2).ecosystem = p.1 ∧ (anchor q.1 q.2).role = p.2)
      = decide (q = p) := by
    intro q hq
    obtain ⟨-, -, -, he, hr, -⟩ := readEntry_eq_ok (h q hq)
    simp only [he, hr, Prod.ext_iff]
  have hone : ∀ p ∈ places, (places.filter fun q => decide (q = p)).length = 1 := by decide
  rw [matching, List.filter_map, List.length_map, ← hone p hp]
  exact congrArg List.length (List.filter_congr hf)

/-- A registry whose places share one certificate. -/
theorem ofArmoured_shared {armour bytes : Bytes} (hb : Armour.blocks armour = [.bytes bytes])
    (hd : (Certificate.decode? bytes).isSome = true) (a : Ecosystem → AnchorRole → TrustAnchor) :
    ofArmoured (places.map fun (e, r) => (e, r, armour))
      = .ok ⟨places.map fun (e, r) => (TrustAnchor.ofEncoded e r bytes).toOption.getD (a e r)⟩ := by
  have hne : ∀ p ∈ places, p.1 ≠ .unknown := by decide
  refine @ofArmoured_places (fun _ _ => armour)
    (fun e r => (TrustAnchor.ofEncoded e r bytes).toOption.getD (a e r)) fun p hp => ?_
  rw [readEntry_of_blocks (hne p hp) p.2 hb]
  exact TrustAnchor.ofEncoded_eq_getD hd _

theorem anchor_eq_ok {g : Registry} {e : Ecosystem} {r : AnchorRole} {a : TrustAnchor}
    (h : g.anchor e r = .ok a) : a ∈ g.anchors ∧ a.ecosystem = e ∧ a.role = r := by
  unfold anchor at h
  split_ifs at h
  split at h
  · rename_i b hb
    cases h
    obtain ⟨hm, hp⟩ := List.mem_filter.1 (List.mem_of_mem_head? hb)
    simp only [decide_eq_true_eq] at hp
    exact ⟨hm, hp.1, hp.2⟩
  · cases h

/-- The anchor of a place is the certificate that was given for it. -/
theorem ofArmoured_anchor {entries : List (Ecosystem × AnchorRole × Bytes)} {g : Registry}
    {e : Ecosystem} {r : AnchorRole} {a : TrustAnchor} (h : ofArmoured entries = .ok g)
    (ha : g.anchor e r = .ok a) :
    ∃ armour c, (e, r, armour) ∈ entries ∧ Armour.blocks armour = [.bytes a.encoding]
      ∧ Certificate.decode? a.encoding = some c ∧ a.publicKey = c.publicKey.encoding := by
  obtain ⟨hm, rfl, rfl⟩ := anchor_eq_ok ha
  obtain ⟨⟨e, r, armour⟩, hx, hf⟩ := exists_of_mapM_eq_ok (ofArmoured_eq_ok_iff.1 h).1 a hm
  obtain ⟨c, hb, hc, rfl, rfl, hk⟩ := readEntry_eq_ok hf
  exact ⟨armour, c, hx, hb, hc, hk⟩

theorem mem_places {e : Ecosystem} (he : e ∈ Ecosystem.known) (r : AnchorRole) :
    (e, r) ∈ places := by
  refine List.mem_flatMap.2 ⟨e, he, ?_⟩
  cases r <;> simp

theorem exists_anchor {entries : List (Ecosystem × AnchorRole × Bytes)} {g : Registry}
    (h : ofArmoured entries = .ok g) {e : Ecosystem} (he : e ∈ Ecosystem.known) (r : AnchorRole) :
    ∃ a, g.anchor e r = .ok a := by
  have hlen := (ofArmoured_eq_ok_iff.1 h).2 (e, r) (mem_places he r)
  obtain ⟨a, ha⟩ := List.length_eq_one_iff.1 hlen
  have hne : e ≠ .unknown := by
    rintro rfl
    exact absurd he (by decide)
  exact ⟨a, by simp only [anchor, if_neg hne, ha, List.head?_cons]⟩

end Registry

theorem Certificate.classify_mem_known {c : Certificate} {e : Ecosystem} {holder : HolderType}
    (h : c.classify = .ok (e, holder)) : e ∈ Ecosystem.known := by
  unfold classify at h
  split at h
  · cases h
  rename_i found hf
  split at h
  · cases h
  split at h
  · cases h
  · cases h
    exact List.mem_of_find?_eq_some hf

end SignerTrust
