import Mathlib.Tactic.Common
import SignerTrust.Classification

/-!
# What classification depends on

A certificate is classified by the names of its extensions, by whether its issuer is a test issuer
and by the policies that it states; the order of these and how often they occur do not count
(`classify_congr`).  The tables of the known ecosystems and of their holder policies set the order
instead.  So the marker of a later authority does not count beside that of an earlier one
(`classify_insert`), and one more policy can only bring an earlier row of the same table forward
(`MatchesRow.exists_le`).
-/

namespace SignerTrust.Certificate

/-- Whether some policies extension of the certificate lists a policy. -/
def StatesPolicy (c : Certificate) (policy : Oid) : Prop :=
  ∃ e ∈ c.extensions, e.name = policiesName
    ∧ ∃ stated rest, readPolicies? e.value = some (stated, rest) ∧ policy ∈ stated

/-- Whether a certificate is of version 3 and has one policies extension at most. -/
def IsOrderly (c : Certificate) : Prop :=
  c.version = version3 ∧ (Extension.named policiesName c.extensions).length ≤ 1

/-- Whether two certificates have extensions of the same names, and both or none of them a test
issuer. -/
def IsMarkedLike (c c' : Certificate) : Prop :=
  (∀ name, (∃ e ∈ c.extensions, e.name = name) ↔ ∃ e ∈ c'.extensions, e.name = name)
    ∧ c.isTestIssuer = c'.isTestIssuer

/-- Whether row `n` of a profile's holder policies is the first that the certificate has, and the
holder type that it gives. -/
def MatchesRow (c : Certificate) (p : Profile) (n : Nat) (holder : HolderType) : Prop :=
  ∃ policy, p.holderPolicies[n]? = some (policy, holder) ∧ c.hasPolicy policy = true
    ∧ ∀ m < n, ∀ row, p.holderPolicies[m]? = some row → c.hasPolicy row.1 = false

variable {c c' : Certificate}

theorem policies_of_named (hv : c.version = version3) {x : Extension}
    (h : Extension.named policiesName c.extensions = [x]) :
    c.policies = ((readPolicies? x.value).map (·.1)).getD [] := by
  simp only [policies, if_neg (not_not.2 hv), extension?, Extension.unique?, h, Option.bind_some]

/-- A certificate with policies has its one policies extension. -/
theorem exists_named_of_mem_policies {policy : Oid} (h : policy ∈ c.policies) :
    c.version = version3 ∧ ∃ x, Extension.named policiesName c.extensions = [x] := by
  unfold policies at h
  split_ifs at h with hv
  · cases h
  · refine ⟨not_not.1 hv, ?_⟩
    rw [extension?, Extension.unique?] at h
    split at h
    · rename_i x hx
      exact ⟨x, hx⟩
    · cases h

theorem mem_named_iff {name : Oid} {x : Extension} {extensions : List Extension} :
    x ∈ Extension.named name extensions ↔ x ∈ extensions ∧ x.name = name := by
  rw [Extension.named, List.mem_filter, decide_eq_true_eq]

theorem mem_policies_iff (h : c.IsOrderly) {policy : Oid} :
    policy ∈ c.policies ↔ c.StatesPolicy policy := by
  constructor
  · intro hpolicy
    obtain ⟨hv, x, hx⟩ := exists_named_of_mem_policies hpolicy
    rw [policies_of_named hv hx] at hpolicy
    have hmem := mem_named_iff.1 (hx ▸ List.mem_singleton_self x)
    rcases hread : readPolicies? x.value with _ | ⟨stated, rest⟩
    · rw [hread] at hpolicy
      cases hpolicy
    · rw [hread] at hpolicy
      exact ⟨x, hmem.1, hmem.2, stated, rest, hread, hpolicy⟩
  · rintro ⟨x, hx, hname, stated, rest, hread, hpolicy⟩
    have hmem := mem_named_iff.2 ⟨hx, hname⟩
    have hpos := List.length_pos_of_mem hmem
    obtain ⟨y, hy⟩ := List.length_eq_one_iff.1 (Nat.le_antisymm h.2 hpos)
    rw [hy] at hmem
    obtain rfl := List.mem_singleton.1 hmem
    rw [policies_of_named h.1 hy, hread]
    exact hpolicy

theorem hasPolicy_eq_true_iff {start : String} :
    c.hasPolicy start = true ↔ ∃ policy ∈ c.policies, policy.dottedStartsWith start = true :=
  List.any_eq_true

theorem hasPolicy_mono (h : ∀ policy ∈ c.policies, policy ∈ c'.policies) {start : String}
    (hs : c.hasPolicy start = true) : c'.hasPolicy start = true := by
  obtain ⟨policy, hmem, hstart⟩ := hasPolicy_eq_true_iff.1 hs
  exact hasPolicy_eq_true_iff.2 ⟨policy, h policy hmem, hstart⟩

theorem hasPolicy_congr (h : ∀ policy, policy ∈ c.policies ↔ policy ∈ c'.policies) :
    c.hasPolicy = c'.hasPolicy := by
  funext start
  rw [Bool.eq_iff_iff]
  exact ⟨hasPolicy_mono fun policy => (h policy).1, hasPolicy_mono fun policy => (h policy).2⟩

theorem hasMarker_congr (h : c.IsMarkedLike c') : c.hasMarker = c'.hasMarker := by
  have himp : ∀ {a b : Certificate}, (∀ name, (∃ e ∈ a.extensions, e.name = name) →
      ∃ e ∈ b.extensions, e.name = name) → ∀ p, a.hasMarker p = true → b.hasMarker p = true := by
    intro a b hnames p hp
    obtain ⟨e, he, hstart⟩ := List.any_eq_true.1 hp
    obtain ⟨e', he', hname⟩ := hnames e.name ⟨e, he, rfl⟩
    exact List.any_eq_true.2 ⟨e', he', hname ▸ hstart⟩
  funext p
  rw [Bool.eq_iff_iff]
  exact ⟨himp (fun name => (h.1 name).1) p, himp (fun name => (h.1 name).2) p⟩

theorem looksLike_congr (h : c.IsMarkedLike c') : c.looksLike = c'.looksLike := by
  funext e
  unfold looksLike
  rw [hasMarker_congr h, h.2]

theorem classify_eq_of {c c' : Certificate}
    (hl : Ecosystem.known.find? c.looksLike = Ecosystem.known.find? c'.looksLike)
    (hp : c.hasPolicy = c'.hasPolicy) : c.classify = c'.classify := by
  rw [classify, classify, hl, hp]

/-- Only the names of extensions, the issuer being a test issuer and the policies count, in
whatever order they stand. -/
theorem classify_congr (hc : c.IsOrderly) (hc' : c'.IsOrderly) (h : c.IsMarkedLike c')
    (hp : ∀ policy, c.StatesPolicy policy ↔ c'.StatesPolicy policy) :
    c.classify = c'.classify := by
  refine classify_eq_of (by rw [looksLike_congr h]) (hasPolicy_congr fun policy => ?_)
  rw [mem_policies_iff hc, mem_policies_iff hc', hp]

/-! The two hierarchies of one authority have the same marker, and one of them fits. -/

theorem find?_known_of_marker {p : Profile} (hp : Ecosystem.profile? .bancoCentral = some p)
    (h : c.hasMarker p = true) : Ecosystem.known.find? c.looksLike
      = some (if c.isTestIssuer = true then .bancoCentralTest else .bancoCentral) := by
  have hp' : Ecosystem.profile? .bancoCentralTest = some p := hp
  have h0 : c.looksLike .bancoCentral = !c.isTestIssuer := by
    simp only [looksLike, hp, h, Bool.true_and]
  have h1 : c.looksLike .bancoCentralTest = c.isTestIssuer := by
    simp only [looksLike, hp', h, Bool.true_and]
  rcases ht : c.isTestIssuer
  · rw [Ecosystem.known, List.find?_cons_of_pos (by rw [h0, ht]; rfl), if_neg (by decide)]
  · rw [Ecosystem.known, List.find?_cons_of_neg (by rw [h0, ht]; decide),
      List.find?_cons_of_pos (by rw [h1, ht]), if_pos rfl]

/-- No marker is the start of the name of the policies extension. -/
theorem ne_policiesName {e : Ecosystem} {p : Profile} (hp : e.profile? = some p) {name : Oid}
    (h : name.dottedStartsWith p.marker = true) : name ≠ policiesName := by
  rintro rfl
  have hall : ∀ e : Ecosystem, ∀ p ∈ e.profile?,
      policiesName.dottedStartsWith p.marker = false := by
    intro e
    cases e <;> decide +kernel
  rw [hall e p hp] at h
  cases h

theorem policies_insert {before after : List Extension} (hx : c.extensions = before ++ after)
    {x : Extension} (hname : x.name ≠ policiesName) :
    policies { c with extensions := before ++ x :: after } = c.policies := by
  have hnamed : Extension.named policiesName (before ++ x :: after)
      = Extension.named policiesName c.extensions := by
    rw [hx, Extension.named, Extension.named, List.filter_append, List.filter_append,
      List.filter_cons_of_neg (by simpa using hname)]
  simp only [policies, extension?, Extension.unique?, hnamed]

/-- A marker of a later authority beside one of the first does not count. -/
theorem classify_insert {p q : Profile} {e : Ecosystem}
    (hp : Ecosystem.profile? .bancoCentral = some p) (hm : c.hasMarker p = true)
    (hq : e.profile? = some q) {x : Extension} (hx : x.name.dottedStartsWith q.marker = true)
    {before after : List Extension} (hc : c.extensions = before ++ after) :
    classify { c with extensions := before ++ x :: after } = c.classify := by
  have hm' : hasMarker { c with extensions := before ++ x :: after } p = true := by
    obtain ⟨y, hy, hstart⟩ := List.any_eq_true.1 hm
    rw [hc] at hy
    refine List.any_eq_true.2 ⟨y, ?_, hstart⟩
    rcases List.mem_append.1 hy with hy | hy
    · exact List.mem_append_left _ hy
    · exact List.mem_append_right _ (List.mem_cons_of_mem _ hy)
  refine classify_eq_of ?_ (hasPolicy_congr fun policy => ?_)
  · rw [find?_known_of_marker hp hm, find?_known_of_marker hp hm']
    rfl
  · rw [policies_insert hc (ne_policiesName hq hx)]

theorem find?_holderPolicies_eq_some_iff {p : Profile} {row : String × HolderType} :
    p.holderPolicies.find? (fun row => c.hasPolicy row.1) = some row
      ↔ c.hasPolicy row.1 = true ∧ ∃ n : Nat, p.holderPolicies[n]? = some row
        ∧ ∀ m < n, ∀ r, p.holderPolicies[m]? = some r → c.hasPolicy r.1 = false := by
  rw [List.find?_eq_some_iff_getElem]
  refine and_congr_right fun _ => ?_
  constructor
  · rintro ⟨n, hn, hrow, hbefore⟩
    refine ⟨n, by rw [List.getElem?_eq_getElem hn, hrow], fun m hm r hr => ?_⟩
    have hb := hbefore m hm
    rw [List.getElem?_eq_getElem (Nat.lt_trans hm hn), Option.some.injEq] at hr
    rwa [hr, Bool.not_eq_true'] at hb
  · rintro ⟨n, hrow, hbefore⟩
    obtain ⟨hn, hrow⟩ := List.getElem?_eq_some_iff.1 hrow
    refine ⟨n, hn, hrow, fun m hm => ?_⟩
    rw [Bool.not_eq_true']
    exact hbefore m hm _ (List.getElem?_eq_getElem (Nat.lt_trans hm hn))

/-- A certificate is classified by the first ecosystem that fits and its first row that matches. -/
theorem classify_eq_ok_iff {e : Ecosystem} {holder : HolderType} :
    c.classify = .ok (e, holder) ↔ Ecosystem.known.find? c.looksLike = some e
      ∧ ∃ p, e.profile? = some p ∧ ∃ n, c.MatchesRow p n holder := by
  unfold classify MatchesRow
  constructor
  · intro h
    rcases hl : Ecosystem.known.find? c.looksLike with _ | e'
    · simp [hl] at h
    rcases hp : e'.profile? with _ | p
    · simp [hl, hp] at h
    rcases hr : p.holderPolicies.find? (fun row => c.hasPolicy row.1) with _ | ⟨policy, holder'⟩
    · simp [hl, hp, hr] at h
    · simp only [hl, hp, hr, Except.ok.injEq, Prod.mk.injEq] at h
      obtain ⟨rfl, rfl⟩ := h
      obtain ⟨hpolicy, n, hrow, hbefore⟩ := find?_holderPolicies_eq_some_iff.1 hr
      exact ⟨rfl, p, hp, n, policy, hrow, hpolicy, hbefore⟩
  · rintro ⟨hl, p, hp, n, policy, hrow, hpolicy, hbefore⟩
    have hr := find?_holderPolicies_eq_some_iff.2 ⟨hpolicy, n, hrow, hbefore⟩
    simp only [hl, hp, hr]

/-- Under more policies the first row that matches is the same or an earlier one. -/
theorem MatchesRow.exists_le {p : Profile} {n : Nat} {holder : HolderType}
    (h : c.MatchesRow p n holder) (hp : ∀ policy ∈ c.policies, policy ∈ c'.policies) :
    ∃ m ≤ n, ∃ holder', c'.MatchesRow p m holder' := by
  obtain ⟨policy, hrow, hpolicy, -⟩ := h
  have hpolicy' := hasPolicy_mono hp hpolicy
  have hsome : (p.holderPolicies.find? fun row => c'.hasPolicy row.1).isSome = true :=
    List.find?_isSome.2 ⟨_, List.mem_of_getElem? hrow, hpolicy'⟩
  obtain ⟨row, hr⟩ := Option.isSome_iff_exists.1 hsome
  obtain ⟨hfirst, m, hm, hbefore⟩ := find?_holderPolicies_eq_some_iff.1 hr
  refine ⟨m, ?_, row.2, row.1, hm, hfirst, hbefore⟩
  by_contra hlt
  have hnot := hbefore n (Nat.lt_of_not_le hlt) _ hrow
  rw [hpolicy'] at hnot
  cases hnot

/-- Whether the second certificate is the first with one more policy in a policies extension. -/
def AddsPolicy (c c' : Certificate) (policy : Oid) : Prop :=
  ∃ before x x' after stated stated' rest rest', c.extensions = before ++ x :: after
    ∧ c' = { c with extensions := before ++ x' :: after }
    ∧ x.name = policiesName ∧ readPolicies? x.value = some (stated ++ stated', rest)
    ∧ x'.name = policiesName ∧ readPolicies? x'.value = some (stated ++ policy :: stated', rest')

theorem AddsPolicy.isMarkedLike {policy : Oid} (h : c.AddsPolicy c' policy) :
    c.IsMarkedLike c' := by
  obtain ⟨before, x, x', after, -, -, -, -, hc, rfl, hx, -, hx', -⟩ := h
  refine ⟨fun name => ?_, rfl⟩
  simp only [hc, List.mem_append, List.mem_cons, or_and_right, exists_or, exists_eq_left, hx, hx']

theorem named_append_cons {name : Oid} (before : List Extension) {x : Extension}
    (h : x.name = name) (after : List Extension) :
    Extension.named name (before ++ x :: after)
      = Extension.named name before ++ x :: Extension.named name after := by
  rw [Extension.named, List.filter_append, List.filter_cons_of_pos (by simpa using h)]
  rfl

theorem AddsPolicy.mem_policies {policy : Oid} (h : c.AddsPolicy c' policy) :
    ∀ other ∈ c.policies, other ∈ c'.policies := by
  obtain ⟨before, x, x', after, stated, stated', rest, rest', hc, rfl, hx, hread, hx', hread'⟩ := h
  intro other hother
  obtain ⟨hv, y, hy⟩ := exists_named_of_mem_policies hother
  -- the extension that is read is the one that is replaced, and there is no other
  have hone := hy
  rw [hc, named_append_cons before hx, List.append_eq_singleton_iff] at hone
  rcases hone with ⟨hbefore, hone⟩ | ⟨-, hone⟩
  · obtain ⟨rfl, hafter⟩ := List.cons.inj hone
    have hy' : Extension.named policiesName (before ++ x' :: after) = [x'] := by
      rw [named_append_cons before hx', hbefore, hafter, List.nil_append]
    have hpolicies := policies_of_named (c := { c with extensions := before ++ x' :: after }) hv hy'
    rw [policies_of_named hv hy, hread] at hother
    rw [hpolicies, hread']
    rcases List.mem_append.1 hother with hmem | hmem
    · exact List.mem_append_left _ hmem
    · exact List.mem_append_right _ (List.mem_cons_of_mem _ hmem)
  · cases hone

/-- One more policy leaves the ecosystem and brings no later row forward. -/
theorem classify_addsPolicy {policy : Oid} (h : c.AddsPolicy c' policy) {e : Ecosystem}
    {holder : HolderType} (hc : c.classify = .ok (e, holder)) :
    ∃ p n m holder', e.profile? = some p ∧ c.MatchesRow p n holder ∧ m ≤ n
      ∧ c'.MatchesRow p m holder' ∧ c'.classify = .ok (e, holder') := by
  obtain ⟨hl, p, hp, n, hn⟩ := classify_eq_ok_iff.1 hc
  obtain ⟨m, hm, holder', hrow⟩ := hn.exists_le h.mem_policies
  refine ⟨p, n, m, holder', hp, hn, hm, hrow, classify_eq_ok_iff.2 ⟨?_, p, hp, m, hrow⟩⟩
  rw [← looksLike_congr h.isMarkedLike, hl]

/-- The first ecosystem that fits and its first row that matches decide; the order of extensions
and policies and all else that a certificate holds do not count; the marker of another authority
does not count beside that of the first one; and one more policy leaves the ecosystem and brings no
later row forward. -/
theorem classify_by_tables :
    (∀ (c : Certificate) e holder, c.classify = .ok (e, holder) ↔
      Ecosystem.known.find? c.looksLike = some e
        ∧ ∃ p, e.profile? = some p ∧ ∃ n, c.MatchesRow p n holder)
    ∧ (∀ c c' : Certificate, c.IsOrderly → c'.IsOrderly → c.IsMarkedLike c' →
      (∀ policy, c.StatesPolicy policy ↔ c'.StatesPolicy policy) → c.classify = c'.classify)
    ∧ (∀ (c : Certificate) (p : Profile), Ecosystem.profile? .bancoCentral = some p →
      c.hasMarker p = true → ∀ (e : Ecosystem) (q : Profile), e.profile? = some q →
      ∀ x : Extension, x.name.dottedStartsWith q.marker = true →
      ∀ before after, c.extensions = before ++ after →
      classify { c with extensions := before ++ x :: after } = c.classify)
    ∧ ∀ (c c' : Certificate) (policy : Oid), c.AddsPolicy c' policy →
      ∀ e holder, c.classify = .ok (e, holder) →
      ∃ p n m holder', e.profile? = some p ∧ c.MatchesRow p n holder ∧ m ≤ n
        ∧ c'.MatchesRow p m holder' ∧ c'.classify = .ok (e, holder') := by
  refine ⟨fun c e holder => classify_eq_ok_iff, ?_, ?_, ?_⟩
  · intro c c' hc hc' h hp
    exact classify_congr hc hc' h hp
  · intro c p hp hm e q hq x hx before after hc
    exact classify_insert hp hm hq hx hc
  · intro c c' policy h e holder hc
    exact classify_addsPolicy h hc

/-- A certificate with nothing to it but its extensions. -/
def sampleOf (extensions : List Extension) : Certificate where
  version := version3
  serial := [1]
  innerAlgorithm := ⟨.ofArcs [1, 2, 840, 10045, 4, 3, 2], none⟩
  issuer := ⟨[]⟩
  notBefore := ⟨.twoDigitYear, [], 0⟩
  notAfter := ⟨.twoDigitYear, [], 0⟩
  subject := ⟨[]⟩
  publicKey := ⟨⟨.ofArcs [1, 2, 840, 10045, 2, 1], none⟩, ⟨0, []⟩, []⟩
  extensions := extensions
  signedPart := []
  algorithm := ⟨.ofArcs [1, 2, 840, 10045, 4, 3, 2], none⟩
  signature := ⟨0, []⟩

/-- A field under the marker of the authority `arc`. -/
def sampleField (arc : Nat) : Extension :=
  ⟨.ofArcs [1, 3, 6, 1, 4, 1, arc, 3, 1], false, []⟩

/-- The policies of the rows `rows` of one authority. -/
def samplePolicies (rows : List Nat) : Extension where
  name := policiesName
  critical := false
  value := Der.encode 0x30 <| rows.flatMap fun n =>
    Der.encode 0x30 (Der.encode 0x06 (Oid.ofArcs [1, 3, 6, 1, 4, 1, 37947, 2, n]).content)

theorem classify_sampleOf :
    (sampleOf [sampleField 37947, samplePolicies [1, 2]]).classify
      = (sampleOf [samplePolicies [2, 1, 2], sampleField 37947, sampleField 37947]).classify
    ∧ (sampleOf [sampleField 37746, sampleField 37947, samplePolicies [2]]).classify
      = (sampleOf [sampleField 37947, samplePolicies [2]]).classify
    ∧ ∃ p n m holder, Ecosystem.profile? .bancoCentral = some p
      ∧ (sampleOf [sampleField 37947, samplePolicies [2]]).MatchesRow p n .legalPerson ∧ m ≤ n
      ∧ (sampleOf [sampleField 37947, samplePolicies [2, 1]]).MatchesRow p m holder
      ∧ (sampleOf [sampleField 37947, samplePolicies [2, 1]]).classify
        = .ok (.bancoCentral, holder) := by
  obtain ⟨-, horder, hinsert, hadd⟩ := classify_by_tables
  have hc : (sampleOf [sampleField 37947, samplePolicies [1, 2]]).IsOrderly :=
    ⟨rfl, by decide +kernel⟩
  have hc' : (sampleOf [samplePolicies [2, 1, 2], sampleField 37947,
      sampleField 37947]).IsOrderly := ⟨rfl, by decide +kernel⟩
  have hmarker : (sampleOf [sampleField 37947, samplePolicies [2]]).hasMarker
      ⟨"1.3.6.1.4.1.37947.3", "1.3.6.1.4.1.37947.2"⟩ = true := by decide +kernel
  refine ⟨horder _ _ hc hc' ⟨fun name => ?_, rfl⟩ fun policy => ?_, ?_, ?_⟩
  · simp [sampleOf, samplePolicies, or_comm]
  · have hp : policies (sampleOf [sampleField 37947, samplePolicies [1, 2]])
        = [.ofArcs [1, 3, 6, 1, 4, 1, 37947, 2, 1], .ofArcs [1, 3, 6, 1, 4, 1, 37947, 2, 2]] := by
      decide +kernel
    have hp' : policies (sampleOf [samplePolicies [2, 1, 2], sampleField 37947, sampleField 37947])
        = [.ofArcs [1, 3, 6, 1, 4, 1, 37947, 2, 2], .ofArcs [1, 3, 6, 1, 4, 1, 37947, 2, 1],
          .ofArcs [1, 3, 6, 1, 4, 1, 37947, 2, 2]] := by
      decide +kernel
    rw [← mem_policies_iff hc, ← mem_policies_iff hc', hp, hp']
    simp only [List.mem_cons, List.not_mem_nil, or_false]
    constructor
    · rintro (h | h)
      · exact .inr (.inl h)
      · exact .inl h
    · rintro (h | h | h)
      · exact .inr h
      · exact .inl h
      · exact .inr h
  · exact hinsert _ _ rfl hmarker .securityData _ rfl (sampleField 37746) (by decide +kernel) [] _
      rfl
  · refine hadd _ _ (.ofArcs [1, 3, 6, 1, 4, 1, 37947, 2, 1]) ⟨[sampleField 37947],
      samplePolicies [2], samplePolicies [2, 1], [], [.ofArcs [1, 3, 6, 1, 4, 1, 37947, 2, 2]], [],
      [], [], rfl, rfl, rfl, ?_, rfl, ?_⟩ _ _ ?_
    · decide +kernel
    · decide +kernel
    · decide +kernel

end SignerTrust.Certificate
