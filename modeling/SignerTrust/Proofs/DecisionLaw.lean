import SignerTrust.Proofs.Authentic

/-!
# The law by which a verdict is found

`Decides` puts, before the table by which responder and lists settle a status, the certificates that
are not checked at all.  The exchanges and verdicts of a validation are exactly those of the law
(`validate_yields_iff`); that an ecosystem has no issuing authority is no row of it, as a registry
has one for each known ecosystem.  A validation without a verdict broke off while the status of a
certificate was to be settled.
-/

namespace SignerTrust.Validator

variable {v : Validator} {random certificate : Bytes}

/-- A certificate that decodes is of an ecosystem or not, but never corrupt. -/
theorem classify_ne_corrupt (c : Certificate) : c.classify ≠ .error .corrupt := by
  unfold Certificate.classify
  repeat' split
  all_goals exact nofun

theorem anchor_of_classified {entries : List (Ecosystem × AnchorRole × Bytes)}
    (hg : Registry.ofArmoured entries = .ok v.registry) {e : Ecosystem} {holder : HolderType}
    (h : classifyEncoded certificate = .ok (e, holder)) :
    ∃ sub, v.registry.anchor e .sub = .ok sub := by
  obtain ⟨c, hc⟩ := classifyEncoded_eq_ok h
  rw [classifyEncoded_of_decode hc] at h
  exact Registry.exists_anchor hg (Certificate.classify_mem_known h) .sub

section

variable [CryptoLibrary]

/-- How a validation comes to its verdict. -/
inductive Decides (v : Validator) (random certificate : Bytes) : List Exchange → Verdict → Prop
  | undecodable (h : Certificate.decode? certificate = none) :
    Decides v random certificate [] ⟨.unknown, .unknown, .corrupt, none⟩
  | notRecognized {c} (hc : Certificate.decode? certificate = some c)
      (h : c.classify = .error .notRecognized) :
    Decides v random certificate [] ⟨.unknown, .unknown, .caNotSupported, none⟩
  | unsupportedProfile {c e} (hc : Certificate.decode? certificate = some c)
      (h : c.classify = .error (.unsupportedProfile e)) :
    Decides v random certificate [] ⟨e, .unknown, .caNotSupported, none⟩
  | checked {c e holder sub es o m} (hc : Certificate.decode? certificate = some c)
      (h : c.classify = .ok (e, holder)) (ha : v.registry.anchor e .sub = .ok sub)
      (hs : Settles v random certificate e sub es o m) :
    Decides v random certificate es ⟨e, holder, o, some m⟩

theorem Decides.validate_yields {es : List Exchange} {verdict : Verdict}
    (h : Decides v random certificate es verdict) :
    (v.validate random certificate).Yields es verdict := by
  have unchecked : ∀ {err}, classifyEncoded certificate = .error err →
      (v.validate random certificate).Yields []
        (.unchecked (ecosystemOf err) (Outcome.ofClassifyError err)) := by
    intro err he
    rw [validate_of_error he]
    exact Inquiry.yields_pure.2 ⟨rfl, rfl⟩
  cases h with
  | undecodable hc => exact unchecked (classifyEncoded_of_undecodable hc)
  | notRecognized hc hx => exact unchecked ((classifyEncoded_of_decode hc).trans hx)
  | unsupportedProfile hc hx => exact unchecked ((classifyEncoded_of_decode hc).trans hx)
  | checked hc hx ha hs =>
    exact (validate_yields_of_ok ((classifyEncoded_of_decode hc).trans hx) ha).2 ⟨_, _, hs, rfl⟩

theorem decides_of_validate {entries : List (Ecosystem × AnchorRole × Bytes)}
    (hg : Registry.ofArmoured entries = .ok v.registry) {es : List Exchange} {verdict : Verdict}
    (h : (v.validate random certificate).Yields es verdict) :
    Decides v random certificate es verdict := by
  rcases hc : Certificate.decode? certificate with _ | c
  · rw [validate_of_error (classifyEncoded_of_undecodable hc)] at h
    obtain ⟨rfl, rfl⟩ := Inquiry.yields_pure.1 h
    exact .undecodable hc
  have he := classifyEncoded_of_decode hc
  rcases hx : c.classify with (_ | e | _) | ⟨e, holder⟩ <;> rw [hx] at he
  · rw [validate_of_error he] at h
    obtain ⟨rfl, rfl⟩ := Inquiry.yields_pure.1 h
    exact .notRecognized hc hx
  · rw [validate_of_error he] at h
    obtain ⟨rfl, rfl⟩ := Inquiry.yields_pure.1 h
    exact .unsupportedProfile hc hx
  · exact absurd hx (classify_ne_corrupt c)
  · obtain ⟨sub, ha⟩ := anchor_of_classified hg he
    obtain ⟨o, m, hs, rfl⟩ := (validate_yields_of_ok he ha).1 h
    exact .checked hc hx ha hs

/-- Exchanges and verdicts of a validation are those of the law. -/
theorem validate_yields_iff {entries : List (Ecosystem × AnchorRole × Bytes)}
    (hg : Registry.ofArmoured entries = .ok v.registry) {es : List Exchange} {verdict : Verdict} :
    (v.validate random certificate).Yields es verdict ↔ Decides v random certificate es verdict :=
  ⟨decides_of_validate hg, Decides.validate_yields⟩

theorem Decides.method_eq_none_iff {es : List Exchange} {verdict : Verdict}
    (h : Decides v random certificate es verdict) :
    verdict.method = none ↔ ∃ err, classifyEncoded certificate = .error err := by
  cases h with
  | undecodable hc => exact ⟨fun _ => ⟨_, classifyEncoded_of_undecodable hc⟩, fun _ => rfl⟩
  | notRecognized hc hx | unsupportedProfile hc hx =>
    exact ⟨fun _ => ⟨_, (classifyEncoded_of_decode hc).trans hx⟩, fun _ => rfl⟩
  | checked hc hx =>
    rw [classifyEncoded_of_decode hc, hx]
    simp

/-- Without classification no server is asked, and their state stays as it was. -/
theorem run_of_not_classified {err : ClassifyError} {σ : Type}
    (h : classifyEncoded certificate = .error err) (servers : (q : Question) → σ → q.Answer × σ)
    (s : σ) : (v.validate random certificate).run servers s
      = (some (.unchecked (ecosystemOf err) (Outcome.ofClassifyError err)), [], s) := by
  rw [validate_of_error h]
  rfl

/-- Every run that comes to a verdict decides by the law, and only what the law says can happen;
with any limit but the greatest every run comes to one.  A verdict names no method exactly if the
certificate could not be classified, and then nothing was asked; a classified certificate has an
issuing authority. -/
theorem validate_decided {entries : List (Ecosystem × AnchorRole × Bytes)}
    (hg : Registry.ofArmoured entries = .ok v.registry) :
    (∀ es verdict, (v.validate random certificate).Yields es verdict ↔
      Decides v random certificate es verdict)
    ∧ (∀ {σ : Type} (servers : (q : Question) → σ → q.Answer × σ) (s : σ) verdict asked s',
      (v.validate random certificate).run servers s = (some verdict, asked, s') →
        Decides v random certificate ((v.validate random certificate).transcript servers s) verdict
        ∧ asked = ((v.validate random certificate).transcript servers s).map (·.1)
        ∧ (verdict.method = none ↔ ∃ err, classifyEncoded certificate = .error err)
        ∧ (verdict.method = none → asked = [] ∧ s' = s))
    ∧ (∀ {σ : Type} (servers : (q : Question) → σ → q.Answer × σ) (s : σ),
      ((v.validate random certificate).run servers s).1 = none →
        v.settings.network.maxResponseSize = noLimit ∧ ∃ e holder sub,
          classifyEncoded certificate = .ok (e, holder) ∧ v.registry.anchor e .sub = .ok sub
          ∧ Unsettled v random certificate e sub
            ((v.validate random certificate).transcript servers s))
    ∧ ∀ e holder, classifyEncoded certificate = .ok (e, holder) →
      ∃ sub, v.registry.anchor e .sub = .ok sub := by
  refine ⟨fun _ _ => validate_yields_iff hg, fun servers s verdict asked s' hr => ?_,
    fun servers s hr => ?_, fun _ _ => anchor_of_classified hg⟩
  · have hq := Inquiry.run_asked servers (v.validate random certificate) s
    rw [hr] at hq
    have hd := (validate_yields_iff hg).1 (Inquiry.yields_transcript servers (congrArg (·.1) hr))
    refine ⟨hd, hq, hd.method_eq_none_iff, fun hm => ?_⟩
    obtain ⟨err, he⟩ := hd.method_eq_none_iff.1 hm
    cases hr.symm.trans (run_of_not_classified he servers s)
    exact ⟨rfl, rfl⟩
  · have hb := Inquiry.breaksOff_transcript servers hr
    obtain ⟨e, holder, sub, hx, ha, hu⟩ := validate_breaksOff hb
    exact ⟨by_contra fun hm => not_unsettled hm hu, e, holder, sub, hx, ha, hu⟩

end

theorem validate_decided_of_sample :
    Decides sampleValidator sampleRandom sampleCertificate
      ((sampleValidator.validate sampleRandom sampleCertificate).transcript sampleServers ())
      ⟨.securityData, .naturalPerson, .valid, some .responder⟩ := by
  have hv : ((sampleValidator.validate sampleRandom sampleCertificate).run sampleServers ()).1
      = some ⟨.securityData, .naturalPerson, .valid, some .responder⟩ := by decide +kernel
  rcases hrun : (sampleValidator.validate sampleRandom sampleCertificate).run sampleServers ()
    with ⟨verdict, asked, s'⟩
  rw [hrun] at hv
  obtain rfl : verdict = some ⟨.securityData, .naturalPerson, .valid, some .responder⟩ := hv
  exact ((validate_decided ofArmoured_sample).2.1 sampleServers () _ _ _ hrun).1

end SignerTrust.Validator
