import Mathlib.Data.List.Chain
import SignerTrust.Path

/-!
# The chains that a search completes

A chain leads from a certificate to a trusted one by steps to an issuer, which is trusted or merely
given, and its last certificate is trusted itself (`Leads`).  Every chain that a search completes is
one of those (`leads_of_extend`), whatever fuel the search has.  If the signatures of a chain are
found to hold, each certificate is signed with the key of the next (`checkSignatures_eq_ok_iff`).
-/

namespace SignerTrust.Path

theorem LinkAlgorithm.agrees_refl (a : LinkAlgorithm) : a.agrees a = true := by
  unfold agrees
  rcases a.parameters with _ | p <;> simp

theorem Link.same_refl (l : Link) : l.same l = true := by
  simp [same, LinkAlgorithm.agrees_refl]

namespace Member

/-- Whether a certificate names the subject of another as its issuer. -/
def Names (m issuer : Member) : Prop :=
  issuer.link.subject.same m.link.issuer = true

theorem names_of_mayIssue {issuer m : Member} (h : issuer.mayIssue m = true) : m.Names issuer := by
  simp only [mayIssue, Bool.and_eq_true] at h
  exact h.1.1

theorem names_self {m : Member} (h : m.isSelfSigned = true) : m.Names m :=
  names_of_mayIssue h

/-- What a self-issued certificate names as its issuer has its name. -/
theorem Names.trans {m a b : Member} (ha : m.Names a) (hs : a.Names a) (hb : a.Names b) :
    m.Names b := by
  simp only [Names, ComparableName.same, decide_eq_true_eq] at *
  rw [hb, ← hs, ha]

theorem ofLink?_eq_some {l : Link} {m : Member} (h : ofLink? l = some m) : m.link = l := by
  obtain ⟨p, -, rfl⟩ := Option.map_eq_some_iff.1 h
  rfl

end Member

namespace Chain

section Candidates

variable {instant : Int}

theorem foldl_mem {α : Type} {f : α → α → α} (hf : ∀ a b, f a b = a ∨ f a b = b) :
    ∀ (xs : List α) (a : α), xs.foldl f a ∈ a :: xs
  | [], a => List.mem_singleton_self a
  | x :: xs, a => by
    have h := foldl_mem hf xs (f a x)
    rw [List.foldl_cons]
    rcases List.mem_cons.1 h with h | h
    · rw [h]
      rcases hf a x with h | h <;> rw [h] <;> simp
    · exact List.mem_cons_of_mem a (List.mem_cons_of_mem x h)

theorem best?_mem {candidates : List Member} {m : Member}
    (h : best? instant candidates = some m) : m ∈ candidates := by
  unfold best? at h
  split at h
  · rename_i hf
    cases h
    exact List.mem_of_find?_eq_some hf
  split at h
  · cases h
  · cases h
    refine foldl_mem (fun a b => ?_) _ _
    split_ifs
    · exact .inr rfl
    · exact .inl rfl

theorem trustedIssuer?_eq_some {trusted start : List Member} {last issuer : Member}
    (h : trustedIssuer? trusted instant start last = some issuer) :
    issuer ∈ trusted ∧ issuer.mayIssue last = true
      ∧ (last.isSelfSigned = true → last.link.same issuer.link = true) := by
  unfold trustedIssuer? at h
  split_ifs at h
  obtain ⟨hb, hs⟩ := Option.filter_eq_some_iff.1 h
  obtain ⟨hm, hi⟩ := List.mem_filter.1 (best?_mem hb)
  refine ⟨hm, hi, fun hl => ?_⟩
  simpa [hl] using hs

theorem givenIssuer?_eq_some {pool start : List Member} {last issuer : Member}
    (h : givenIssuer? pool instant start last = some issuer) :
    issuer ∈ pool ∧ issuer.mayIssue last = true ∧ last.isSelfSigned = false := by
  unfold givenIssuer? at h
  split_ifs at h with hl
  obtain ⟨hm, hi⟩ := List.mem_filter.1 (best?_mem h)
  simp only [Bool.or_eq_true, not_or, Bool.not_eq_true] at hl
  exact ⟨hm, (Bool.and_eq_true_iff.1 hi).1, hl.1⟩

end Candidates

/-- How a chain leads up from a certificate: the certificate may have issued itself, and a trusted
one that is the same stands for it; or an issuer follows, from which the chain leads on. -/
inductive Leads (trusted given : List Member) : Member → List Member → Prop
  | itself {last issuer : Member} (ht : issuer ∈ trusted) (hi : issuer.mayIssue last = true)
      (hl : last.isSelfSigned = true) (hs : last.link.same issuer.link = true) :
    Leads trusted given last [issuer]
  | step {last issuer : Member} {up : List Member} (hm : issuer ∈ trusted ∨ issuer ∈ given)
      (hi : issuer.mayIssue last = true) (hl : last.isSelfSigned = false)
      (h : Leads trusted given issuer up) : Leads trusted given last (last :: up)

variable {trusted given : List Member} {instant : Int}

theorem leads_of_extend : ∀ {fuel : Nat} {start : List Member} {last : Member} {n : Nat}
    {pool : Option (List Member)} {chain : List Member}, (∀ m ∈ pool.getD [], m ∈ given) →
    extend trusted instant fuel start last n pool = .complete chain →
    ∃ up, chain = start ++ up ∧ Leads trusted given last up
  | 0, _, _, _, _, _, _, h => by cases h
  | fuel + 1, start, last, n, pool, chain, hp, h => by
    have onward : ∀ {issuer : Member} {n' : Nat} {pool' : Option (List Member)},
        (issuer ∈ trusted ∨ issuer ∈ given) → issuer.mayIssue last = true →
        last.isSelfSigned = false → (∀ m ∈ pool'.getD [], m ∈ given) →
        extend trusted instant fuel (start ++ [last]) issuer n' pool' = .complete chain →
        ∃ up, chain = start ++ up ∧ Leads trusted given last up := by
      intro issuer n' pool' hm hi hl hp' h'
      obtain ⟨up, rfl, hu⟩ := leads_of_extend hp' h'
      exact ⟨last :: up, by simp, .step hm hi hl hu⟩
    unfold extend at h
    split at h
    · rename_i issuer hf
      obtain ⟨ht, hi, hs⟩ := trustedIssuer?_eq_some hf
      split_ifs at h with _ hl hr
      · cases h
        exact ⟨[issuer], rfl, .itself ht hi hl (hs hl)⟩
      · cases h
        exact ⟨[last, issuer], rfl, .step (.inl ht) hi (Bool.not_eq_true _ ▸ hl)
          (.itself ht hr hr (Link.same_refl _))⟩
      · exact onward (.inl ht) hi (Bool.not_eq_true _ ▸ hl) (by simp) h
    · split at h
      · cases h
      rename_i members
      split at h
      · exact leads_of_extend (by simp) h
      · rename_i issuer hg
        obtain ⟨hm, hi, hl⟩ := givenIssuer?_eq_some hg
        refine onward (.inr (hp issuer hm)) hi hl (fun m hm' => ?_) h
        exact hp m (List.mem_filter.1 hm').1

/-- The first certificate of a chain from `m` is `m`, or a trusted one of its name. -/
theorem Leads.head {m : Member} {up : List Member} (h : Leads trusted given m up) :
    ∃ r rest, up = r :: rest ∧ (r = m ∨ r ∈ trusted) ∧ ∀ b : Member, b.Names m → b.Names r := by
  cases h with
  | itself ht hi hl =>
    exact ⟨_, [], rfl, .inr ht, fun b hb =>
      hb.trans (Member.names_self hl) (Member.names_of_mayIssue hi)⟩
  | step => exact ⟨m, _, rfl, .inl rfl, fun _ hb => hb⟩

theorem checkSignatures_go_eq_ok_iff : ∀ {issuer : Option Member} {down : List Member},
    checkSignatures.go instant issuer down = .ok () ↔
      (issuer.toList ++ down).IsChain (fun i m => m.link.isSignedBy i.link.publicKey = true)
      ∧ ∀ m ∈ down, m.link.checkPeriod instant = .ok ()
  | none, [] => by simp [checkSignatures.go]
  | some i, [] => by simp [checkSignatures.go]
  | issuer, m :: down => by
    have ih := @checkSignatures_go_eq_ok_iff (some m) down
    have hp : (do m.link.checkPeriod instant; checkSignatures.go instant (some m) down) = .ok () ↔
        m.link.checkPeriod instant = .ok ()
          ∧ checkSignatures.go instant (some m) down = .ok () := by
      rcases m.link.checkPeriod instant with e | ⟨⟩ <;> simp [bind, Except.bind]
    unfold checkSignatures.go
    rcases issuer with _ | i
    · simp only [Option.all_none, if_true, hp, ih]
      simp [and_left_comm]
    · by_cases hs : m.link.isSignedBy i.link.publicKey = true
      · simp only [Option.all_some, hs, if_true, hp, ih]
        simp [hs, and_left_comm]
      · simp [hs, throw, throwThe, MonadExceptOf.throw]

/-- The signatures of a chain hold if each certificate is signed with the key of the next and all
are valid at the instant. -/
theorem checkSignatures_eq_ok_iff {chain : List Member} :
    checkSignatures instant chain = .ok () ↔
      chain.IsChain (fun m i => m.link.isSignedBy i.link.publicKey = true)
      ∧ ∀ m ∈ chain, m.link.checkPeriod instant = .ok () := by
  rw [checkSignatures, checkSignatures_go_eq_ok_iff]
  simp [List.isChain_reverse]

end Chain

end SignerTrust.Path
