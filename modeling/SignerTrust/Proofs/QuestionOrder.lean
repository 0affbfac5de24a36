import Mathlib.Data.List.Forall2
import SignerTrust.Proofs.ReceivedLists
import SignerTrust.Proofs.RequestSize
import SignerTrust.Proofs.Settlement

/-!
# What a validation asks, and in which order

The exchanges of a validation are those with a status responder, at most one request, followed by
those with distribution points (`validate_respondersFirst`).  Which responder is asked, and when
lists are turned to, is told by `AsksOnce` and `TurnsToLists`; a walk contacts points in their
order, and an exchange that is followed by another brought no list that ends the walk
(`Walk.contacts`, and `CutWalk.contacts` where it breaks off).
-/

namespace SignerTrust

/-- An exchange that asks for the list at a point. -/
inductive Contacts (settings : Settings) (route : Route) : String → Exchange → Prop
  | fetched {point uri} (hw : DistributionPoint.IsWeb point) (hu : Uri.parse? point = some uri)
      (reply : Except HttpError HttpReply) :
    Contacts settings route point ⟨.fetch route.http ⟨.get, uri, [], []⟩, reply⟩
  | lookedUp {point} (hd : DistributionPoint.IsDirectory point)
      (value : Except DirectoryError Bytes) :
    Contacts settings route point
      ⟨.lookUp route.directory point settings.lists.directoryAttribute, value⟩

/-- Exchanges that ask points for their lists, in order; only the last may have brought a list that
cannot be used or that names the serial number. -/
structure ContactsInOrder [CryptoLibrary] (settings : Settings) (route : Route)
    (key : Option Bytes) (serial : Nat) (points : List String) (es : List Exchange) : Prop where
  contacts : ∃ asked, asked.Sublist points ∧ List.Forall₂ (Contacts settings route) asked es
  goesOn : ∀ x ∈ es.dropLast, ∀ encoding,
    x.list? settings.network.maxResponseSize = some encoding →
    ∃ l, RevocationList.IsListOf key encoding l ∧ l.lists serial = false

section Visits

variable {settings : Settings} {route : Route} {body? : HttpReply → Option Bytes}

/-- A visit takes no exchange, or one that contacts its point. -/
theorem Visit.Proper.contacts {v : Visit} (h : v.Proper settings route body?) :
    v.exchanges = [] ∨ ∃ x, v.exchanges = [x] ∧ Contacts settings route v.point x := by
  cases h with
  | fetched hw hu reply => exact .inr ⟨_, rfl, .fetched hw hu reply⟩
  | lookedUp hd value => exact .inr ⟨_, rfl, .lookedUp hd value⟩
  | unaddressed hw hu => exact .inl rfl
  | passed hw hd => exact .inl rfl

/-- A visit that brought a list took one exchange, which contacts its point. -/
theorem Visit.Proper.exists_contact {v : Visit} (h : v.Proper settings route body?)
    {encoding : Bytes} (he : v.list = some encoding) :
    ∃ x, v.exchanges = [x] ∧ Contacts settings route v.point x := by
  rcases h.contacts with hn | hx
  · obtain ⟨x, hx⟩ := h.exists_exchange he
    rw [hn] at hx
    cases hx
  · exact hx

theorem exists_contacted : ∀ {visits : List Visit},
    (∀ v ∈ visits, v.Proper settings route body?) →
    ∃ asked, asked.Sublist (visits.map (·.point))
      ∧ List.Forall₂ (Contacts settings route) asked (visits.flatMap (·.exchanges))
  | [], _ => ⟨[], List.Sublist.refl [], .nil⟩
  | v :: visits, h => by
    obtain ⟨hv, hvs⟩ := List.forall_mem_cons.1 h
    obtain ⟨asked, hs, hf⟩ := exists_contacted hvs
    rw [List.flatMap_cons]
    rcases hv.contacts with he | ⟨x, he, hx⟩ <;> rw [he]
    · exact ⟨asked, hs.cons v.point, hf⟩
    · exact ⟨v.point :: asked, hs.cons_cons v.point, .cons hx hf⟩

end Visits

namespace RevocationList

variable [CryptoLibrary]

variable {settings : Settings} {route : Route} {key : Option Bytes} {serial : Nat}

theorem GoesOn.unlisted_exchange {limit : UInt64} {visits : List Visit}
    (h : ∀ u ∈ visits, GoesOn settings route (HttpReply.received? limit) key serial u)
    {x : Exchange} (hx : x ∈ visits.flatMap (·.exchanges)) {encoding : Bytes}
    (hl : x.list? limit = some encoding) :
    ∃ l, IsListOf key encoding l ∧ l.lists serial = false := by
  obtain ⟨u, hu, hx⟩ := List.mem_flatMap.1 hx
  exact (h u hu).unlisted encoding ((h u hu).proper.list_eq hx ▸ hl)

/-- A walk up to an exchange after which no other follows, whatever it brought. -/
theorem contactsInOrder_of_stopped {before : List Visit} {after : List String} {point : String}
    (hb : ∀ u ∈ before,
      GoesOn settings route (HttpReply.received? settings.network.maxResponseSize) key serial u)
    {x : Exchange} (hc : Contacts settings route point x) :
    ContactsInOrder settings route key serial (before.map (·.point) ++ point :: after)
      (before.flatMap (·.exchanges) ++ [x]) := by
  obtain ⟨asked, hs, hf⟩ := exists_contacted fun u hu => (hb u hu).proper
  refine ⟨⟨asked ++ [point], hs.append (List.singleton_sublist.2 List.mem_cons_self),
    List.rel_append hf (.cons hc .nil)⟩, fun y hy encoding hl => ?_⟩
  rw [List.dropLast_concat] at hy
  exact GoesOn.unlisted_exchange hb hy hl

theorem Walk.contacts {points : List String} {es : List Exchange} {o : Outcome} {p : Progress}
    (h : Walk settings route (HttpReply.received? settings.network.maxResponseSize) key serial p
      points es o) : ContactsInOrder settings route key serial points es := by
  cases h with
  | broken hp hb hv he =>
    obtain ⟨x, hx, hc⟩ := hv.exists_contact he
    rw [hp, hx]
    exact contactsInOrder_of_stopped hb hc
  | revoked hp hb hv he =>
    obtain ⟨x, hx, hc⟩ := hv.exists_contact he
    rw [hp, hx]
    exact contactsInOrder_of_stopped hb hc
  | @ended visits hp hb =>
    rw [hp]
    exact ⟨exists_contacted fun u hu => (hb u hu).proper, fun x hx encoding hl =>
      GoesOn.unlisted_exchange hb (List.mem_of_mem_dropLast hx) hl⟩

theorem CutWalk.contacts {points : List String} {es : List Exchange}
    (h : CutWalk settings route (HttpReply.received? settings.network.maxResponseSize) key serial
      points es) : ContactsInOrder settings route key serial points es := by
  obtain ⟨hp, hb, -, hw, hu, -⟩ := h
  rw [hp]
  exact contactsInOrder_of_stopped hb (.fetched hw hu _)

end RevocationList

namespace StatusRequest

/-- The responder for a certificate of an ecosystem: the first that the certificate names, and only
if it names none, the one configured for the ecosystem. -/
def IsTarget (settings : Settings) (e : Ecosystem) (c : Certificate) (url : String) : Prop :=
  c.statusResponders.head? = some url
  ∨ c.statusResponders = [] ∧ settings.responders.fallback.get e = some url

theorem isTarget_of_responder? {settings : Settings} {c : Certificate} {e : Ecosystem}
    {holder : HolderType} {url : String} (hx : c.classify = .ok (e, holder))
    (h : responder? settings c = some url) : IsTarget settings e c url := by
  unfold responder? at h
  split at h
  · rename_i url' _ hu
    cases h
    exact .inl (by rw [hu, List.head?_cons])
  · rename_i hn
    rw [hx] at h
    exact .inr ⟨hn, h⟩

end StatusRequest

namespace Validator

variable {v : Validator} {random certificate : Bytes}

/-- What is asked of a responder: nothing, or, for a certificate of an ecosystem and if responders
come first, one request is posted to the responder for it.  If the certificate fits into memory, a
responder reads of the body one entry, which names the certificate under its anchor, and the nonce,
if one is sent. -/
def AsksOnce (v : Validator) (random certificate : Bytes) (es : List Exchange) : Prop :=
  es = [] ∨ v.settings.responders.preferred = true ∧ ∃ e holder c sub id url uri body reply,
    classifyEncoded certificate = .ok (e, holder) ∧ Certificate.decode? certificate = some c
    ∧ v.registry.anchor e .sub = .ok sub ∧ CertId.ofEncoded? certificate sub.encoding = some id
    ∧ StatusRequest.IsTarget v.settings e c url ∧ Uri.parse? url = some uri
    ∧ es = [⟨.fetch (v.route e).http ⟨.post, uri,
        [("content-type", "application/ocsp-request"), ("accept", "application/ocsp-response")],
        body⟩, reply⟩]
    ∧ (certificate.length < 2 ^ 63 → random.length = StatusRequest.nonceLength →
      ReceivedRequest.read.run body = (some ⟨0, none, [⟨id, none⟩],
        (StatusRequest.sentNonce v.settings random).map fun bytes =>
          [⟨StatusRequest.nonceName, false, StatusRequest.nonceValue bytes⟩], none⟩, []))

theorem asksOnce_of_posted {e : Ecosystem} {holder : HolderType} {c : Certificate}
    {sub : TrustAnchor} (hp : v.settings.responders.preferred = true)
    (hc : Certificate.decode? certificate = some c) (hx : c.classify = .ok (e, holder))
    (ha : v.registry.anchor e .sub = .ok sub) {url : String} {uri : Uri} {x : Expectation}
    (hu : StatusRequest.responder? v.settings c = some url) (huri : Uri.parse? url = some uri)
    (he : Expectation.ofEncoded? certificate sub.encoding
      ((StatusRequest.sentNonce v.settings random).map StatusRequest.nonceValue) = some x)
    (reply : Except HttpError HttpReply) :
    AsksOnce v random certificate [⟨.fetch (v.route e).http ((StatusRequest.make x.certificate
      (StatusRequest.sentNonce v.settings random)).post uri), reply⟩] := by
  obtain ⟨cc, i, parsed, hcc, hi, -, rfl⟩ := Expectation.ofEncoded?_eq_some he
  refine .inr ⟨hp, e, holder, c, sub, .about cc i, url, uri, _, reply,
    (classifyEncoded_of_decode hc).trans hx, hc, ha, CertId.ofEncoded?_of_decode hcc hi,
    StatusRequest.isTarget_of_responder? hx hu, huri, rfl, fun hl hr => ?_⟩
  exact StatusRequest.run_read_sent hcc hl hr

variable [CryptoLibrary]

/-- The lists are not asked, or, after the responder was asked by `es₁`, they are for a certificate
of an ecosystem, if they come first or if the responder did not settle the status and lists are to
be asked then. -/
def TurnsToLists (v : Validator) (random certificate : Bytes) (es₁ es₂ : List Exchange) : Prop :=
  es₂ = [] ∨ ∃ e holder c sub, classifyEncoded certificate = .ok (e, holder)
    ∧ Certificate.decode? certificate = some c ∧ v.registry.anchor e .sub = .ok sub
    ∧ (v.settings.responders.preferred = false
      ∨ v.settings.responders.listsAsFallback = true ∧ ∃ r,
        (v.askResponder random certificate e sub).Yields es₁ r ∧ r ≠ .ok .valid ∧ r ≠ .ok .revoked)
    ∧ ContactsInOrder v.settings (v.route e)
      (if v.settings.lists.verifySignature then some sub.publicKey else none) c.serialNumber
      (DistributionPoint.usable (v.settings.lists.overridePoints.getD c.distributionPoints)) es₂

section Check

variable {e : Ecosystem} {holder : HolderType} {c : Certificate} {sub : TrustAnchor}
  {es es₁ es₂ : List Exchange}

/-- A responder is asked by one request, whether the reply to it can be read or not. -/
theorem asksOnce_of_askResponder (hp : v.settings.responders.preferred = true)
    (hc : Certificate.decode? certificate = some c) (hx : c.classify = .ok (e, holder))
    (ha : v.registry.anchor e .sub = .ok sub)
    (h : (∃ r, (v.askResponder random certificate e sub).Yields es r)
      ∨ (v.askResponder random certificate e sub).BreaksOff es) :
    AsksOnce v random certificate es := by
  unfold askResponder at h
  rcases h with ⟨r, h⟩ | h
  · unfold StatusRequest.check at h
    rw [hc] at h
    simp only [] at h
    split at h
    · exact .inl (Inquiry.yields_pure.1 h).1
    rename_i url hu
    rcases StatusRequest.askResponder_yields h with ⟨hn, -⟩ | ⟨x, uri, reply, he, huri, rfl, -⟩
    · exact .inl hn
    · exact asksOnce_of_posted hp hc hx ha hu huri he reply
  · obtain ⟨c', url, hc', hu, h⟩ := StatusRequest.check_breaksOff h
    obtain rfl : c = c' := Option.some.inj (hc.symm.trans hc')
    obtain ⟨-, x, uri, reply, he, huri, -, rfl⟩ := StatusRequest.askResponder_breaksOff h
    exact asksOnce_of_posted hp hc hx ha hu huri he (.ok reply)

theorem contactsInOrder_of_checkLists (hc : Certificate.decode? certificate = some c)
    (h : (∃ o, (v.checkLists (v.route e) certificate sub).Yields es o)
      ∨ (v.checkLists (v.route e) certificate sub).BreaksOff es) :
    ContactsInOrder v.settings (v.route e)
      (if v.settings.lists.verifySignature then some sub.publicKey else none) c.serialNumber
      (DistributionPoint.usable (v.settings.lists.overridePoints.getD c.distributionPoints))
      es := by
  rcases h with ⟨o, h⟩ | h
  · exact ((RevocationList.check_yields_iff hc).1 h).1.contacts
  · exact ((RevocationList.check_breaksOff_iff hc).1 h).2.contacts

/-- What is asked on the way to a status: of the responder by `es₁`, and then of the lists. -/
def RespondersFirst (v : Validator) (random certificate : Bytes) (es : List Exchange) : Prop :=
  ∃ es₁ es₂, es = es₁ ++ es₂ ∧ AsksOnce v random certificate es₁
    ∧ TurnsToLists v random certificate es₁ es₂

section Parts

variable (hc : Certificate.decode? certificate = some c) (hx : c.classify = .ok (e, holder))
  (ha : v.registry.anchor e .sub = .ok sub)

include hc hx ha

theorem respondersFirst_of_lists (hp : v.settings.responders.preferred = false)
    (hl : (∃ o, (v.checkLists (v.route e) certificate sub).Yields es o)
      ∨ (v.checkLists (v.route e) certificate sub).BreaksOff es) :
    RespondersFirst v random certificate es :=
  ⟨[], es, rfl, .inl rfl, .inr ⟨e, holder, c, sub, (classifyEncoded_of_decode hc).trans hx, hc, ha,
    .inl hp, contactsInOrder_of_checkLists hc hl⟩⟩

theorem respondersFirst_of_responder (hp : v.settings.responders.preferred = true)
    (hr : (∃ r, (v.askResponder random certificate e sub).Yields es r)
      ∨ (v.askResponder random certificate e sub).BreaksOff es) :
    RespondersFirst v random certificate es :=
  ⟨es, [], (List.append_nil _).symm, asksOnce_of_askResponder hp hc hx ha hr, .inl rfl⟩

theorem respondersFirst_of_both (hp : v.settings.responders.preferred = true)
    (hf : v.settings.responders.listsAsFallback = true) {r : Except ResponderError Outcome}
    (hr : (v.askResponder random certificate e sub).Yields es₁ r)
    (hd : r ≠ .ok .valid ∧ r ≠ .ok .revoked)
    (hl : (∃ o, (v.checkLists (v.route e) certificate sub).Yields es₂ o)
      ∨ (v.checkLists (v.route e) certificate sub).BreaksOff es₂) :
    RespondersFirst v random certificate (es₁ ++ es₂) :=
  ⟨es₁, es₂, rfl, asksOnce_of_askResponder hp hc hx ha (.inl ⟨r, hr⟩), .inr ⟨e, holder, c, sub,
    (classifyEncoded_of_decode hc).trans hx, hc, ha, .inr ⟨hf, r, hr, hd⟩,
    contactsInOrder_of_checkLists hc hl⟩⟩

/-- What settles a status asks the responder first, if it asks it, and then the lists. -/
theorem Settles.respondersFirst {o : Outcome} {m : CheckMethod}
    (h : Settles v random certificate e sub es o m) : RespondersFirst v random certificate es := by
  have undecided : ∀ {answer : Outcome}, ¬ (answer = .valid ∨ answer = .revoked) →
      (Except.ok answer : Except ResponderError Outcome) ≠ .ok .valid
        ∧ (Except.ok answer : Except ResponderError Outcome) ≠ .ok .revoked := fun hd =>
    ⟨fun he => hd (.inl (Except.ok.inj he)), fun he => hd (.inr (Except.ok.inj he))⟩
  cases h with
  | listsOnly hp hl => exact respondersFirst_of_lists hc hx ha hp (.inl ⟨_, hl⟩)
  | definitive hp hr => exact respondersFirst_of_responder hc hx ha hp (.inl ⟨_, hr⟩)
  | answerOnly hp hf hr => exact respondersFirst_of_responder hc hx ha hp (.inl ⟨_, hr⟩)
  | noResponder hp hf hr => exact respondersFirst_of_responder hc hx ha hp (.inl ⟨_, hr⟩)
  | noAnswer hp hf hr => exact respondersFirst_of_responder hc hx ha hp (.inl ⟨_, hr⟩)
  | listsAfterError hp hf hr hl =>
    exact respondersFirst_of_both hc hx ha hp hf hr ⟨nofun, nofun⟩ (.inl ⟨_, hl⟩)
  | listsAfterAnswer hp hf hr hd hl =>
    exact respondersFirst_of_both hc hx ha hp hf hr (undecided hd) (.inl ⟨_, hl⟩)
  | answerKept hp hf hr hd hl =>
    exact respondersFirst_of_both hc hx ha hp hf hr (undecided hd) (.inl ⟨_, hl⟩)

theorem Unsettled.respondersFirst (h : Unsettled v random certificate e sub es) :
    RespondersFirst v random certificate es := by
  cases h with
  | lists hp hl => exact respondersFirst_of_lists hc hx ha hp (.inr hl)
  | responder hp hr => exact respondersFirst_of_responder hc hx ha hp (.inr hr)
  | listsAfter hp hf hr hd hl => exact respondersFirst_of_both hc hx ha hp hf hr hd (.inr hl)

end Parts

end Check

/-- What a run asks is at most one request to a status responder, and then lists of points; so it is
in a run that breaks off. -/
theorem validate_respondersFirst (v : Validator) (random certificate : Bytes) {σ : Type}
    (servers : (q : Question) → σ → q.Answer × σ) (s : σ) :
    ∃ es₁ es₂, (v.validate random certificate).transcript servers s = es₁ ++ es₂
      ∧ ((v.validate random certificate).run servers s).2.1 = es₁.map (·.1) ++ es₂.map (·.1)
      ∧ AsksOnce v random certificate es₁ ∧ TurnsToLists v random certificate es₁ es₂ := by
  have hq := Inquiry.run_asked servers (v.validate random certificate) s
  obtain ⟨es₁, es₂, he, ho, ht⟩ : RespondersFirst v random certificate
      ((v.validate random certificate).transcript servers s) := by
    rcases hrun : ((v.validate random certificate).run servers s).1 with _ | verdict
    · obtain ⟨e, holder, sub, hx, ha, hu⟩ :=
        validate_breaksOff (Inquiry.breaksOff_transcript servers hrun)
      obtain ⟨c, hc⟩ := classifyEncoded_eq_ok hx
      rw [classifyEncoded_of_decode hc] at hx
      exact hu.respondersFirst hc hx ha
    rcases validate_yields_cases (Inquiry.yields_transcript servers hrun) with
      ⟨hn, -⟩ | ⟨sub, m, hx, ha, -, hs⟩
    · exact ⟨[], [], hn, .inl rfl, .inl rfl⟩
    · obtain ⟨c, hc⟩ := classifyEncoded_eq_ok hx
      rw [classifyEncoded_of_decode hc] at hx
      exact hs.respondersFirst hc hx ha
  rw [he, List.map_append] at hq
  exact ⟨es₁, es₂, he, hq, ho, ht⟩

end Validator

end SignerTrust
