import SignerTrust.Proofs.DecisionLaw
import SignerTrust.Proofs.ListCheck

/-!
# When a verdict is corrupt

A certificate is read twice: by a tolerant reader when it is classified, and by a strict one,
together with that of its issuing authority, when a status request has to name it.  Where only the
strict one refuses, nothing is asked, and the verdict on the certificate is that it is corrupt,
unless revocation lists tell more (`validate_corrupt_iff`).  It is so too if the certificate is fine
and only that of the authority is refused (`validate_corrupt_of_tolerated`).
-/

namespace SignerTrust

theorem StatusResponse.interpret_ne_corrupt [CryptoLibrary] (bytes : Bytes) (x : Expectation) :
    interpret bytes x ≠ .corrupt := by
  intro h
  have ht := tells_interpret bytes x
  rw [h] at ht
  generalize ho : Outcome.corrupt = o at ht
  cases ht with
  | @entry body r s hd hr he =>
    rcases hs : s.status <;> rw [hs] at ho <;> cases ho
  | _ => cases ho

namespace RevocationList

theorem Progress.outcome_ne_corrupt (p : Progress) : p.outcome ≠ .corrupt := by
  unfold outcome
  split_ifs <;> simp

variable [CryptoLibrary] {settings : Settings} {route : Route} {body? : HttpReply → Option Bytes}
  {key : Option Bytes} {serial : Nat} {points : List String} {es : List Exchange} {o : Outcome}

theorem Walk.ne_corrupt {start : Progress}
    (h : Walk settings route body? key serial start points es o) : o ≠ .corrupt := by
  cases h with
  | broken | revoked => simp
  | ended => exact Progress.outcome_ne_corrupt _

/-- A walk that comes to nothing had no points to visit. -/
theorem Walk.points_eq_nil (h : Walk settings route body? key serial {} points es .unknown) :
    points = [] := by
  generalize ho : Outcome.unknown = o at h
  cases h with
  | broken | revoked => cases ho
  | @ended visits hp hb =>
    rcases visits with _ | ⟨v, visits⟩
    · exact hp
    · rcases hl : v.list with _ | list <;> simp [Progress.after, Progress.outcome, hl] at ho
      split_ifs at ho

/-- Without points to visit nothing is asked. -/
theorem check_of_usable_eq_nil {certificate : Bytes} {c : Certificate}
    (hc : Certificate.decode? certificate = some c) {points : Option (List String)}
    (hu : DistributionPoint.usable (points.getD c.distributionPoints) = []) :
    check settings route certificate key points = pure .unknown := by
  simp only [check, hc]
  rw [walk_usable, hu]
  rfl

end RevocationList

theorem Expectation.ofEncoded?_eq_none_iff {certificate issuer : Bytes} {nonce : Option Bytes}
    {parsed : Certificate} (hp : Certificate.decode? issuer = some parsed) :
    ofEncoded? certificate issuer nonce = none ↔
      Canonical.Certificate.decode? certificate = none
        ∨ Canonical.Certificate.decode? issuer = none := by
  rcases hc : Canonical.Certificate.decode? certificate with _ | c
  · simp [ofEncoded?, CertId.ofEncoded?, hc]
  rcases hi : Canonical.Certificate.decode? issuer with _ | i <;>
    simp [ofEncoded?, CertId.ofEncoded?, hc, hi, hp]

namespace StatusRequest

variable [CryptoLibrary] {settings : Settings} {client : ServerTrust}
  {random certificate issuer : Bytes} {c parsed : Certificate}

theorem check_of_refused (hc : Certificate.decode? certificate = some c)
    (hp : Certificate.decode? issuer = some parsed) {url : String}
    (hu : responder? settings c = some url)
    (hr : Canonical.Certificate.decode? certificate = none
      ∨ Canonical.Certificate.decode? issuer = none) :
    check settings client random certificate issuer = pure (.ok .corrupt) := by
  simp only [check, hc, hu]
  rw [askResponder_eq, (Expectation.ofEncoded?_eq_none_iff hp).2 hr]

theorem refused_of_check (hc : Certificate.decode? certificate = some c)
    (hp : Certificate.decode? issuer = some parsed) {es : List Exchange}
    (h : (check settings client random certificate issuer).Yields es (.ok .corrupt)) :
    (∃ url, responder? settings c = some url)
      ∧ (Canonical.Certificate.decode? certificate = none
        ∨ Canonical.Certificate.decode? issuer = none) := by
  simp only [check, hc] at h
  rcases hu : responder? settings c with _ | url <;> rw [hu] at h
  · obtain ⟨-, hr⟩ := Inquiry.yields_pure.1 h
    cases hr
  refine ⟨⟨url, rfl⟩, ?_⟩
  dsimp only at h
  rw [askResponder_eq] at h
  split at h
  · rename_i hx
    exact (Expectation.ofEncoded?_eq_none_iff hp).1 hx
  -- an expectation that can be had is met by no corrupt outcome
  split at h
  · obtain ⟨-, hr⟩ := Inquiry.yields_pure.1 h
    cases hr
  · obtain ⟨_, reply, _, -, h₂, -⟩ := Inquiry.yields_bind.1 h
    obtain ⟨-, hr⟩ := Inquiry.yields_ofOption.1 h₂
    obtain ⟨r, body, -, -, -, ho⟩ := ofReply_eq_ok hr
    exact absurd ho.symm (StatusResponse.interpret_ne_corrupt _ _)

end StatusRequest

namespace Validator

variable {v : Validator} {random certificate : Bytes} {c parsed : Certificate} {e : Ecosystem}
  {holder : HolderType} {sub : TrustAnchor}

/-- Whether the request for the status of a certificate would be made but cannot name it, and there
are no lists to be had instead. -/
structure CannotName (v : Validator) (certificate : Bytes) (c : Certificate) (sub : TrustAnchor) :
    Prop where
  preferred : v.settings.responders.preferred = true
  responder : ∃ url, StatusRequest.responder? v.settings c = some url
  refused : Canonical.Certificate.decode? certificate = none
    ∨ Canonical.Certificate.decode? sub.encoding = none
  unlisted : v.settings.responders.listsAsFallback = true →
    DistributionPoint.usable (v.settings.lists.overridePoints.getD c.distributionPoints) = []

section

variable [CryptoLibrary]

theorem checkLists_ne_corrupt (hc : Certificate.decode? certificate = some c) {es : List Exchange}
    {o : Outcome} (h : (v.checkLists (v.route e) certificate sub).Yields es o) : o ≠ .corrupt :=
  ((RevocationList.check_yields_iff hc).1 h).1.ne_corrupt

theorem CannotName.validate_eq (hc : Certificate.decode? certificate = some c)
    (hx : c.classify = .ok (e, holder)) (ha : v.registry.anchor e .sub = .ok sub)
    (hp : Certificate.decode? sub.encoding = some parsed) (h : CannotName v certificate c sub) :
    v.validate random certificate = pure ⟨e, holder, .corrupt, some .responder⟩ := by
  obtain ⟨url, hu⟩ := h.responder
  have hr : v.askResponder random certificate e sub = pure (.ok .corrupt) :=
    StatusRequest.check_of_refused hc hp hu h.refused
  have hcheck : v.checkRevocation random certificate e sub = pure (.corrupt, .responder) := by
    rw [checkRevocation_of_preferred h.preferred, hr]
    show v.afterAnswer certificate e sub (.ok .corrupt) = _
    rcases hf : v.settings.responders.listsAsFallback
    · simp only [afterAnswer, hf, Bool.not_false, Bool.or_true, if_true]
    · have hl : v.checkLists (v.route e) certificate sub = pure .unknown :=
        RevocationList.check_of_usable_eq_nil hc (h.unlisted hf)
      simp only [afterAnswer, hf, hl]
      rfl
  simp only [validate, classifyEncoded_of_decode hc, hx, ha, hcheck]
  rfl

theorem cannotName_of_settles (hc : Certificate.decode? certificate = some c)
    (hp : Certificate.decode? sub.encoding = some parsed) {es : List Exchange} {m : CheckMethod}
    (h : Settles v random certificate e sub es .corrupt m) : CannotName v certificate c sub := by
  generalize ho : Outcome.corrupt = o at h
  cases h with
  | listsOnly _ hl => exact absurd ho.symm (checkLists_ne_corrupt hc hl)
  | listsAfterError _ _ _ hl => exact absurd ho.symm (checkLists_ne_corrupt hc hl)
  | listsAfterAnswer _ _ _ _ hl => exact absurd ho.symm (checkLists_ne_corrupt hc hl)
  | definitive _ _ hd =>
    rw [← ho] at hd
    simp at hd
  | noResponder | noAnswer => cases ho
  | answerOnly hpref hf hr =>
    rw [← ho] at hr
    obtain ⟨hu, hn⟩ := StatusRequest.refused_of_check hc hp hr
    exact ⟨hpref, hu, hn, fun hf' => by simp [hf] at hf'⟩
  | answerKept hpref hf hr _ hl =>
    rw [← ho] at hr
    obtain ⟨hu, hn⟩ := StatusRequest.refused_of_check hc hp hr
    exact ⟨hpref, hu, hn, fun _ => ((RevocationList.check_yields_iff hc).1 hl).1.points_eq_nil⟩

/-- The verdict on a certificate that was classified is corrupt exactly if a request for its status
would be made but cannot name it, and there are no lists; then nothing was asked. -/
theorem validate_corrupt_iff {entries : List (Ecosystem × AnchorRole × Bytes)}
    (hg : Registry.ofArmoured entries = .ok v.registry)
    (hx : classifyEncoded certificate = .ok (e, holder)) :
    ∃ c sub, Certificate.decode? certificate = some c ∧ v.registry.anchor e .sub = .ok sub
      ∧ ∀ {σ : Type} (servers : (q : Question) → σ → q.Answer × σ) (s : σ) verdict asked s',
        (v.validate random certificate).run servers s = (verdict, asked, s') →
          (verdict.map (·.outcome) = some .corrupt ↔ CannotName v certificate c sub)
          ∧ (verdict.map (·.outcome) = some .corrupt →
            verdict = some ⟨e, holder, .corrupt, some .responder⟩ ∧ asked = [] ∧ s' = s) := by
  obtain ⟨c, hc⟩ := classifyEncoded_eq_ok hx
  obtain ⟨sub, ha⟩ := anchor_of_classified hg hx
  obtain ⟨armour, parsed, -, -, hp, -⟩ := Registry.ofArmoured_anchor hg ha
  refine ⟨c, sub, hc, ha, fun servers s verdict asked s' hr => ?_⟩
  have hclass : c.classify = .ok (e, holder) := by rwa [classifyEncoded_of_decode hc] at hx
  have hrun : CannotName v certificate c sub →
      verdict = some ⟨e, holder, .corrupt, some .responder⟩ ∧ asked = [] ∧ s' = s := by
    intro h
    rw [h.validate_eq hc hclass ha hp] at hr
    cases hr
    exact ⟨rfl, rfl, rfl⟩
  have hname : verdict.map (·.outcome) = some .corrupt → CannotName v certificate c sub := by
    intro ho
    obtain ⟨verdict, rfl, hout⟩ := Option.map_eq_some_iff.1 ho
    have hy := Inquiry.yields_transcript servers (congrArg (·.1) hr)
    obtain ⟨o, m, hs, rfl⟩ := (validate_yields_of_ok hx ha).1 hy
    obtain rfl : o = .corrupt := hout
    exact cannotName_of_settles hc hp hs
  exact ⟨⟨hname, fun h => by rw [(hrun h).1]; rfl⟩, fun ho => hrun (hname ho)⟩

end

/-- The certificate of the sample issuer with a first day that is told without seconds. -/
def toleratedIssuer : Bytes :=
  sampleIssuer.take 47 ++ Bytes.ofNat 15 0x180d3230323530313031303030305a ++ sampleIssuer.drop 62

/-- That certificate in armour. -/
def toleratedArmour : Bytes := [
    0x2d2d2d2d2d424547494e2043455254494649434154452d2d2d2d2d0a4d4949424344434273364144,
    0x41674543416745424d413047435371475349623344514542437755414d413078437a414a42674e56,
    0x42414d4d416b4e424d423459445449774d6a55774d5441784d4441774d466f5844544d314d444577,
    0x4d5441774d4441774d466f774454454c4d416b474131554541777743513045775844414e42676b71,
    0x686b6947397730424151454641414e4c41444249416b4541764d326a72526a39576c30366e6b4174,
    0x64613933684730374b654b517a4644586f7258564e4f42476f46385142552b2b33434875344c7259,
    0x395a6753653378367576594e743532537a2b5056774a504f504b673942774944415141424d413047,
    0x435371475349623344514542437755414130454145705a797943623033516b765062696c446b6556,
    0x38657a7a556d4376635a51564a6741766b4433687544537444742f6145356d784b72733974752f4f,
    0x4855537673644f49536761674f58375342653774666c306a43413d3d0a2d2d2d2d2d454e44204345
  ].flatMap (Bytes.ofNat 40) ++ Bytes.ofNat 15 0x5254494649434154452d2d2d2d2d0a

def toleratedAnchor (e : Ecosystem) (r : AnchorRole) : TrustAnchor :=
  (TrustAnchor.ofEncoded e r toleratedIssuer).toOption.getD ⟨e, r, [], "", "", [], 0, 0⟩

/-- A validator all of whose anchors are that certificate, and which asks for no lists. -/
def toleratedValidator : Validator where
  registry := ⟨Registry.places.map fun (e, r) => toleratedAnchor e r⟩
  settings := { responders := { listsAsFallback := false } }

theorem ofArmoured_tolerated :
    Registry.ofArmoured (Registry.places.map fun (e, r) => (e, r, toleratedArmour))
      = .ok toleratedValidator.registry := by
  have hb : Armour.blocks toleratedArmour = [.bytes toleratedIssuer] := by
    decide +kernel
  have hd : (Certificate.decode? toleratedIssuer).isSome = true := by decide +kernel
  exact Registry.ofArmoured_shared hb hd fun e r => ⟨e, r, [], "", "", [], 0, 0⟩

theorem validate_corrupt_iff_of_tolerated :
    ∃ c sub, Certificate.decode? sampleCertificate = some c
      ∧ toleratedValidator.registry.anchor .securityData .sub = .ok sub
      ∧ CannotName toleratedValidator sampleCertificate c sub := by
  have hx : classifyEncoded sampleCertificate = .ok (.securityData, .naturalPerson) := by
    decide +kernel
  obtain ⟨c, sub, hc, ha, hrun⟩ := validate_corrupt_iff ofArmoured_tolerated hx
  have ho : ((toleratedValidator.validate sampleRandom sampleCertificate).run sampleServers
      ()).1.map (·.outcome) = some .corrupt := by
    decide +kernel
  rcases hr : (toleratedValidator.validate sampleRandom sampleCertificate).run sampleServers ()
    with ⟨verdict, asked, s'⟩
  rw [hr] at ho
  exact ⟨c, sub, hc, ha, (hrun sampleServers () verdict asked s' hr).1.1 ho⟩

/-- A certificate that both readers take is found corrupt, without a question to a server, as the
strict one refuses the certificate of its issuing authority. -/
theorem validate_corrupt_of_tolerated :
    Registry.ofArmoured (Registry.places.map fun (e, r) => (e, r, toleratedArmour))
        = .ok toleratedValidator.registry
      ∧ classifyEncoded sampleCertificate = .ok (.securityData, .naturalPerson)
      ∧ (Canonical.Certificate.decode? sampleCertificate).isSome = true
      ∧ (toleratedValidator.validate sampleRandom sampleCertificate).run sampleServers ()
        = (some ⟨.securityData, .naturalPerson, .corrupt, some .responder⟩, [], ()) := by
  refine ⟨ofArmoured_tolerated, ?_, ?_, ?_⟩ <;> decide +kernel

end Validator

end SignerTrust
