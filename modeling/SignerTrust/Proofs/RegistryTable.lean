import Mathlib.Data.List.Perm.Basic
import SignerTrust.Path
import SignerTrust.Proofs.ArmouredBlock
import SignerTrust.Proofs.Authentic
import SignerTrust.Proofs.DistinctAnchors

/-!
# Registries as tables

A registry is kept as the list of its anchors, in the order in which their certificates were given.
It is built just if the certificates fill every place once (`Fills`, `exists_ofArmoured_iff`), and
then it answers like a table: for each place the anchor made of what was given for it, in whatever
order that was (`IsTable`, `ofArmoured_isTable`).
-/

namespace SignerTrust

theorem Path.Chain.check_ne_anchor (instant : Int) (chain : List Member)
    (error : TrustAnchorError) : check instant chain ≠ .error (.anchor error) := by
  unfold check
  intro h
  rcases hc : checkConformance chain with f | ⟨⟩
  · simp [hc, Except.mapError, bind, Except.bind] at h
  rcases hs : checkSignatures instant chain with f | ⟨⟩
  · simp [hc, hs, Except.mapError, bind, Except.bind] at h
  rcases hn : checkNames? chain with _ | f | ⟨⟩ <;>
    simp [hc, hs, hn, Except.mapError, bind, Except.bind, throw, throwThe,
      MonadExceptOf.throw] at h

/-- Verifying a path does not look for anchors. -/
theorem Path.verify_ne_anchor (roots : List Bytes) (middle leaf : Bytes) (instant : Int)
    (error : TrustAnchorError) : verify roots middle leaf instant ≠ .error (.anchor error) := by
  unfold verify
  intro h
  split at h
  · split at h
    · split at h
      · split at h
        · dsimp only at h
          split at h
          · exact Chain.check_ne_anchor _ _ _ h
          · cases h
          · cases h
        · cases h
      · cases h
    · cases h
  · cases h

namespace Registry

open Validator (sampleArmour sampleValidator blocks_sampleArmour ofArmoured_sample)

variable {entries entries' : List (Ecosystem × AnchorRole × Bytes)} {g : Registry}

/-- What was given for a place. -/
def given (entries : List (Ecosystem × AnchorRole × Bytes)) (e : Ecosystem) (r : AnchorRole) :
    List (Ecosystem × AnchorRole × Bytes) :=
  entries.filter fun x => x.1 = e ∧ x.2.1 = r

/-- Whether certificates in armour fill a registry. -/
structure Fills (entries : List (Ecosystem × AnchorRole × Bytes)) : Prop where
  known : ∀ x ∈ entries, x.1 ≠ .unknown
  readable : ∀ x ∈ entries, ∃ content, Armour.HoldsOne x.2.2 content
    ∧ (Certificate.decode? content).isSome = true
  once : ∀ e ∈ Ecosystem.known, ∀ r, (given entries e r).length = 1

/-- The roots that paths are verified against. -/
def pathRoots (g : Registry) : List Bytes :=
  (distinct (g.ofRole .root)).map (·.encoding)

/-- The registry answers like a table of the certificates that it was built from. -/
structure IsTable (entries : List (Ecosystem × AnchorRole × Bytes)) (g : Registry) : Prop where
  made : ∀ e ∈ Ecosystem.known, ∀ r, ∃ armour content a, given entries e r = [(e, r, armour)]
    ∧ Armour.HoldsOne armour content ∧ TrustAnchor.ofEncoded e r content = .ok a
    ∧ g.anchor e r = .ok a
  permuted : ∀ entries', entries'.Perm entries →
    ∃ g', ofArmoured entries' = .ok g' ∧ ∀ e r, g'.anchor e r = g.anchor e r
  unknown : ∀ r, g.anchor .unknown r = .error .unknownEcosystem
  complete : ∀ e r e' r', g.anchor e r ≠ .error (.incompleteTable e' r')
  complete_verifyPath : ∀ leaf e instant e' r',
    g.verifyPath leaf e instant ≠ .error (.anchor (.incompleteTable e' r'))
  allAnchors_nodup : (g.allAnchors.map (·.encoding)).Nodup
  allAnchors_mem : ∀ a, (∃ e r, g.anchor e r = .ok a) →
    a.encoding ∈ g.allAnchors.map (·.encoding)
  allAnchors_rootsFirst : ∃ roots subs, g.allAnchors = roots ++ subs
    ∧ (∀ a ∈ roots, ∃ e, g.anchor e .root = .ok a) ∧ ∀ a ∈ subs, ∃ e, g.anchor e .sub = .ok a
  verifyPath : ∀ leaf e sub instant, g.anchor e .sub = .ok sub →
    g.verifyPath leaf e instant = Path.verify g.pathRoots sub.encoding leaf instant
  pathRoots_ne_nil : g.pathRoots ≠ []
  pathRoots_nodup : g.pathRoots.Nodup
  mem_pathRoots : ∀ bytes, bytes ∈ g.pathRoots ↔ ∃ e a, g.anchor e .root = .ok a
    ∧ a.encoding = bytes

/-! ### From certificates to anchors -/

theorem mem_known_iff {e : Ecosystem} : e ∈ Ecosystem.known ↔ e ≠ .unknown := by
  cases e <;> simp [Ecosystem.known]

theorem mem_places_iff {p : Ecosystem × AnchorRole} : p ∈ places ↔ p.1 ∈ Ecosystem.known := by
  constructor
  · intro h
    obtain ⟨e, he, hp⟩ := List.mem_flatMap.1 h
    rcases List.mem_pair.1 hp with rfl | rfl <;> exact he
  · exact fun h => mem_places h p.2

theorem readEntry_eq_ok_iff {e : Ecosystem} {r : AnchorRole} {armour : Bytes} {a : TrustAnchor} :
    readEntry (e, r, armour) = .ok a ↔ e ≠ .unknown ∧ ∃ content, Armour.HoldsOne armour content
      ∧ TrustAnchor.ofEncoded e r content = .ok a := by
  constructor
  · intro h
    obtain ⟨c, hb, hc, -⟩ := readEntry_eq_ok h
    have he : e ≠ .unknown := by
      rintro rfl
      cases h
    rw [readEntry_of_blocks he r hb] at h
    exact ⟨he, a.encoding, Armour.blocks_eq_singleton_iff.1 hb, h⟩
  · rintro ⟨he, content, hb, ha⟩
    rw [readEntry_of_blocks he r (Armour.blocks_eq_singleton_iff.2 hb), ha]

theorem exists_ofEncoded_iff {e : Ecosystem} {r : AnchorRole} {bytes : Bytes} :
    (∃ a, TrustAnchor.ofEncoded e r bytes = .ok a) ↔ (Certificate.decode? bytes).isSome = true := by
  unfold TrustAnchor.ofEncoded
  cases Certificate.decode? bytes <;> simp

/-- The anchors of a place are made of what was given for it. -/
theorem forall₂_matching {anchors : List TrustAnchor} (h : entries.mapM readEntry = .ok anchors)
    (e : Ecosystem) (r : AnchorRole) :
    List.Forall₂ (fun x a => readEntry x = .ok a) (given entries e r) (matching anchors e r) := by
  refine List.rel_filter ?_ (mapM_eq_ok_iff.1 h)
  rintro ⟨e', r', armour⟩ a ha
  obtain ⟨-, -, -, rfl, rfl, -⟩ := readEntry_eq_ok ha
  rfl

theorem exists_ofArmoured_iff : (∃ g, ofArmoured entries = .ok g) ↔ Fills entries := by
  have hread : (∀ x ∈ entries, ∃ a, readEntry x = .ok a) ↔ (∀ x ∈ entries, x.1 ≠ .unknown)
      ∧ ∀ x ∈ entries, ∃ content, Armour.HoldsOne x.2.2 content
        ∧ (Certificate.decode? content).isSome = true := by
    rw [← forall₂_and]
    refine forall₂_congr fun ⟨e, r, armour⟩ _ => ?_
    simp only [readEntry_eq_ok_iff, ← @exists_ofEncoded_iff e r]
    tauto
  constructor
  · rintro ⟨g, hg⟩
    obtain ⟨hm, hone⟩ := ofArmoured_eq_ok_iff.1 hg
    obtain ⟨hknown, hreadable⟩ := hread.1 (exists_mapM_eq_ok_iff.1 ⟨_, hm⟩)
    refine ⟨hknown, hreadable, fun e he r => ?_⟩
    rw [(forall₂_matching hm e r).length_eq]
    exact hone (e, r) (mem_places he r)
  · intro h
    obtain ⟨anchors, hm⟩ := exists_mapM_eq_ok_iff.2 (hread.2 ⟨h.known, h.readable⟩)
    refine ⟨⟨anchors⟩, ofArmoured_eq_ok_iff.2 ⟨hm, fun p hp => ?_⟩⟩
    rw [← (forall₂_matching hm p.1 p.2).length_eq]
    exact h.once p.1 (mem_places_iff.1 hp) p.2

/-! ### What a built registry answers -/

theorem mem_matching {anchors : List TrustAnchor} {e : Ecosystem} {r : AnchorRole}
    {a : TrustAnchor} :
    a ∈ matching anchors e r ↔ a ∈ anchors ∧ a.ecosystem = e ∧ a.role = r := by
  simp [matching]

theorem anchor_eq_ok_iff (h : ofArmoured entries = .ok g) {e : Ecosystem} {r : AnchorRole}
    {a : TrustAnchor} : g.anchor e r = .ok a ↔ a ∈ g.anchors ∧ a.ecosystem = e ∧ a.role = r := by
  refine ⟨anchor_eq_ok, fun ha => ?_⟩
  obtain ⟨hm, hone⟩ := ofArmoured_eq_ok_iff.1 h
  have he : e ≠ .unknown := by
    obtain ⟨⟨e', r', armour⟩, hx, hf⟩ := exists_of_mapM_eq_ok hm a ha.1
    obtain ⟨-, -, -, he', -⟩ := readEntry_eq_ok hf
    rw [← ha.2.1, he']
    exact (readEntry_eq_ok_iff.1 hf).1
  obtain ⟨b, hb⟩ := List.length_eq_one_iff.1 (hone (e, r) (mem_places (mem_known_iff.2 he) r))
  have hab : a = b := by simpa [hb] using mem_matching.2 ha
  simp only [anchor, if_neg he, hb, List.head?_cons, hab]

theorem anchor_unknown (g : Registry) (r : AnchorRole) :
    g.anchor .unknown r = .error .unknownEcosystem := rfl

/-- The anchor of a place is made of the only certificate that was given for it. -/
theorem anchor_made (h : ofArmoured entries = .ok g) {e : Ecosystem} (he : e ∈ Ecosystem.known)
    (r : AnchorRole) : ∃ armour content a, given entries e r = [(e, r, armour)]
      ∧ Armour.HoldsOne armour content ∧ TrustAnchor.ofEncoded e r content = .ok a
      ∧ g.anchor e r = .ok a := by
  obtain ⟨hm, hone⟩ := ofArmoured_eq_ok_iff.1 h
  obtain ⟨a, ha⟩ := List.length_eq_one_iff.1 (hone (e, r) (mem_places he r))
  have hmade := forall₂_matching hm e r
  rw [ha] at hmade
  obtain ⟨⟨e', r', armour⟩, xs, hx, hxs, hg⟩ := List.forall₂_cons_right_iff.1 hmade
  obtain rfl := List.forall₂_nil_right_iff.1 hxs
  have hplace : (e', r', armour) ∈ given entries e r := by simp [hg]
  obtain ⟨rfl, rfl⟩ : e' = e ∧ r' = r := by simpa [given] using (List.mem_filter.1 hplace).2
  obtain ⟨-, content, hb, hc⟩ := readEntry_eq_ok_iff.1 hx
  have hmem : a ∈ matching g.anchors e' r' := by simp [ha]
  exact ⟨armour, content, a, hg, hb, hc, (anchor_eq_ok_iff h).2 (mem_matching.1 hmem)⟩

/-- The order in which certificates are given makes no difference. -/
theorem anchor_perm (h : ofArmoured entries = .ok g) (hp : entries'.Perm entries) :
    ∃ g', ofArmoured entries' = .ok g' ∧ ∀ e r, g'.anchor e r = g.anchor e r := by
  obtain ⟨hm, hone⟩ := ofArmoured_eq_ok_iff.1 h
  obtain ⟨anchors, hm', hperm⟩ := List.perm_comp_forall₂ hp (mapM_eq_ok_iff.1 hm)
  have hmatch : ∀ e r, (matching anchors e r).Perm (matching g.anchors e r) :=
    fun e r => hperm.filter _
  have h' : ofArmoured entries' = .ok ⟨anchors⟩ := by
    refine ofArmoured_eq_ok_iff.2 ⟨mapM_eq_ok_iff.2 hm', fun p hp => ?_⟩
    rw [(hmatch p.1 p.2).length_eq]
    exact hone p hp
  refine ⟨_, h', fun e r => ?_⟩
  by_cases he : e = .unknown
  · rw [he, anchor_unknown, anchor_unknown]
  · obtain ⟨a, ha⟩ := exists_anchor h (mem_known_iff.2 he) r
    rw [ha, anchor_eq_ok_iff h']
    obtain ⟨hmem, hplace⟩ := (anchor_eq_ok_iff h).1 ha
    exact ⟨hperm.mem_iff.2 hmem, hplace⟩

theorem anchor_ne_incompleteTable (h : ofArmoured entries = .ok g) (e : Ecosystem) (r : AnchorRole)
    (e' : Ecosystem) (r' : AnchorRole) : g.anchor e r ≠ .error (.incompleteTable e' r') := by
  by_cases he : e = .unknown
  · rw [he, anchor_unknown]
    simp
  · obtain ⟨a, ha⟩ := exists_anchor h (mem_known_iff.2 he) r
    rw [ha]
    simp

theorem exists_anchor_iff (h : ofArmoured entries = .ok g) {r : AnchorRole} {a : TrustAnchor} :
    (∃ e, g.anchor e r = .ok a) ↔ a ∈ g.ofRole r := by
  simp [anchor_eq_ok_iff h, ofRole]

/-! ### The certificates of a built registry -/

theorem mem_allAnchors (h : ofArmoured entries = .ok g) {e : Ecosystem} {r : AnchorRole}
    {a : TrustAnchor} (ha : g.anchor e r = .ok a) :
    a.encoding ∈ g.allAnchors.map (·.encoding) := by
  have hr : a ∈ g.ofRole r := (exists_anchor_iff h).1 ⟨e, ha⟩
  rw [allAnchors, mem_encodings_distinct]
  refine List.mem_map_of_mem (List.mem_append.2 ?_)
  cases r
  · exact .inl hr
  · exact .inr hr

theorem allAnchors_eq (h : ofArmoured entries = .ok g) : ∃ roots subs, g.allAnchors = roots ++ subs
    ∧ (∀ a ∈ roots, ∃ e, g.anchor e .root = .ok a) ∧ ∀ a ∈ subs, ∃ e, g.anchor e .sub = .ok a := by
  obtain ⟨added, he, hs⟩ := distinct_append (g.ofRole .root) (g.ofRole .sub)
  refine ⟨_, added, he, fun a ha => ?_, fun a ha => ?_⟩
  · exact (exists_anchor_iff h).2 ((distinct_sublist _).subset ha)
  · exact (exists_anchor_iff h).2 (hs.subset ha)

theorem mem_pathRoots_iff (h : ofArmoured entries = .ok g) {bytes : Bytes} :
    bytes ∈ g.pathRoots ↔ ∃ e a, g.anchor e .root = .ok a ∧ a.encoding = bytes := by
  rw [pathRoots, mem_encodings_distinct, List.mem_map, exists_comm]
  simp only [exists_and_right, exists_anchor_iff h]

theorem pathRoots_ne_nil (h : ofArmoured entries = .ok g) : g.pathRoots ≠ [] := by
  obtain ⟨a, ha⟩ := exists_anchor h (e := .bancoCentral) (by simp [Ecosystem.known]) .root
  exact List.ne_nil_of_mem ((mem_pathRoots_iff h).2 ⟨_, a, ha, rfl⟩)

theorem verifyPath_ne_incompleteTable (h : ofArmoured entries = .ok g) (leaf : Bytes)
    (e : Ecosystem) (instant : Int) (e' : Ecosystem) (r' : AnchorRole) :
    g.verifyPath leaf e instant ≠ .error (.anchor (.incompleteTable e' r')) := by
  unfold verifyPath
  rcases ha : g.anchor e .sub with err | sub
  · intro herr
    cases herr
    exact anchor_ne_incompleteTable h e .sub e' r' ha
  · exact Path.verify_ne_anchor _ _ _ _ _

theorem verifyPath_eq {e : Ecosystem} {sub : TrustAnchor} (h : g.anchor e .sub = .ok sub)
    (leaf : Bytes) (instant : Int) :
    g.verifyPath leaf e instant = Path.verify g.pathRoots sub.encoding leaf instant := by
  rw [verifyPath, h, pathRoots]

/-- A registry is built just from certificates that fill every place once, and then it is a table
of them. -/
theorem ofArmoured_isTable (entries : List (Ecosystem × AnchorRole × Bytes)) :
    ((∃ g, ofArmoured entries = .ok g) ↔ Fills entries)
      ∧ ∀ g, ofArmoured entries = .ok g → IsTable entries g := by
  refine ⟨exists_ofArmoured_iff, fun g h => ?_⟩
  exact {
    made := fun e he r => anchor_made h he r
    permuted := fun entries' hp => anchor_perm h hp
    unknown := anchor_unknown g
    complete := anchor_ne_incompleteTable h
    complete_verifyPath := verifyPath_ne_incompleteTable h
    allAnchors_nodup := nodup_encodings_distinct _
    allAnchors_mem := fun a ⟨e, r, ha⟩ => mem_allAnchors h ha
    allAnchors_rootsFirst := allAnchors_eq h
    verifyPath := fun leaf e sub instant hs => verifyPath_eq hs leaf instant
    pathRoots_ne_nil := pathRoots_ne_nil h
    pathRoots_nodup := nodup_encodings_distinct _
    mem_pathRoots := fun bytes => mem_pathRoots_iff h }

/-- Eight places that share one certificate. -/
theorem ofArmoured_isTable_of_sample :
    ofArmoured (places.map fun (e, r) => (e, r, sampleArmour)) = .ok sampleValidator.registry
      ∧ IsTable (places.map fun (e, r) => (e, r, sampleArmour)) sampleValidator.registry
      ∧ sampleValidator.registry.pathRoots = [sampleIssuer] := by
  have ht := (ofArmoured_isTable _).2 _ ofArmoured_sample
  refine ⟨ofArmoured_sample, ht, ?_⟩
  have hroot : ∀ bytes ∈ sampleValidator.registry.pathRoots, bytes = sampleIssuer := by
    intro bytes hb
    obtain ⟨e, a, ha, rfl⟩ := (ht.mem_pathRoots bytes).1 hb
    obtain ⟨armour, c, hmem, hblocks, -⟩ := ofArmoured_anchor ofArmoured_sample ha
    obtain rfl : armour = sampleArmour := by
      obtain ⟨p, -, hp⟩ := List.mem_map.1 hmem
      exact (congrArg (·.2.2) hp).symm
    simpa [blocks_sampleArmour, eq_comm] using hblocks
  have hnodup := ht.pathRoots_nodup
  rcases hp : sampleValidator.registry.pathRoots with _ | ⟨a, _ | ⟨b, rest⟩⟩
  · exact absurd hp ht.pathRoots_ne_nil
  · rw [hroot a (by simp [hp])]
  · rw [hp, hroot a (by simp [hp]), hroot b (by simp [hp])] at hnodup
    simp at hnodup

end Registry

end SignerTrust
