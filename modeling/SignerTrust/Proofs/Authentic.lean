import SignerTrust.Proofs.ReceivedLists
import SignerTrust.Proofs.RegistryAnchors
import SignerTrust.Proofs.Settlement
import SignerTrust.Signature.Reference

/-!
# Verdicts rest on what the issuing authority signed

If a validation finds a certificate valid or revoked, then by a responder or by revocation lists, as
the verdict says (`checkRevocation_yields`); and whichever it was, the outcome rests on what was
received in that run and was signed for the issuing authority of the certificate's ecosystem.
-/

namespace SignerTrust.Validator

section

variable [CryptoLibrary] {v : Validator} {random certificate : Bytes}

theorem checkLists_eq (hs : v.settings.lists.verifySignature = true) (route : Route)
    (sub : TrustAnchor) : v.checkLists route certificate sub =
      RevocationList.check v.settings route certificate (some sub.publicKey)
        v.settings.lists.overridePoints := by
  simp only [checkLists, hs, if_true]

/-- An outcome that settles the status is that of the responder, or that of the lists, before which
the responder may have been asked. -/
theorem checkRevocation_yields {e : Ecosystem} {sub : TrustAnchor} {es : List Exchange}
    {o : Outcome} {m : CheckMethod}
    (h : (v.checkRevocation random certificate e sub).Yields es (o, m))
    (ho : o.isDefinitive = true) :
    m = .responder ∧ (StatusRequest.check v.settings (v.route e).http random certificate
        sub.encoding).Yields es (.ok o)
    ∨ m = .lists ∧ ∃ es₁ es₂, es = es₁ ++ es₂
      ∧ (es₁ = [] ∨ ∃ r, (StatusRequest.check v.settings (v.route e).http random certificate
          sub.encoding).Yields es₁ r)
      ∧ (v.checkLists (v.route e) certificate sub).Yields es₂ o := by
  have hn : ¬ ¬ (o = .valid ∨ o = .revoked) := not_not_intro (Outcome.isDefinitive_iff.1 ho)
  cases settles_of_checkRevocation h with
  | listsOnly hp hl => exact .inr ⟨rfl, [], es, rfl, .inl rfl, hl⟩
  | definitive hp hr => exact .inl ⟨rfl, hr⟩
  | listsAfterError hp hf hr hl | listsAfterAnswer hp hf hr hd hl =>
    exact .inr ⟨rfl, _, _, rfl, .inr ⟨_, hr⟩, hl⟩
  | answerOnly hp hf hr hd | answerKept hp hf hr hd => exact absurd hd hn
  | noResponder | noAnswer => cases ho

theorem list?_of_responder {client : ServerTrust} {issuer : Bytes} {es : List Exchange}
    {r : Except ResponderError Outcome} {limit : UInt64}
    (h : (StatusRequest.check v.settings client random certificate issuer).Yields es r) :
    ∀ e ∈ es, e.list? limit = none := by
  intro e he
  rcases StatusRequest.check_yields h with ⟨rfl, -⟩ | ⟨x, url, uri, reply, -, -, rfl, -⟩
  · cases he
  · obtain rfl := List.mem_singleton.1 he
    rfl

theorem validate_yields {es : List Exchange} {verdict : Verdict}
    (h : (v.validate random certificate).Yields es verdict)
    (ho : verdict.outcome.isDefinitive = true) :
    ∃ sub m, classifyEncoded certificate = .ok (verdict.ecosystem, verdict.holderType)
      ∧ v.registry.anchor verdict.ecosystem .sub = .ok sub ∧ verdict.method = some m
      ∧ (v.checkRevocation random certificate verdict.ecosystem sub).Yields es
        (verdict.outcome, m) := by
  rcases validate_yields_cases h with ⟨-, hn⟩ | ⟨sub, m, hx, ha, hm, hs⟩
  · cases ho.symm.trans hn
  · exact ⟨sub, m, hx, ha, hm, hs.checkRevocation_yields⟩

/-- A verdict that finds a certificate valid or revoked rests on what was received in that very run
and is authenticated by the issuing authority of the certificate's ecosystem, which is one of those
that the registry was built from. -/
theorem validate_authentic {entries : List (Ecosystem × AnchorRole × Bytes)}
    (hg : Registry.ofArmoured entries = .ok v.registry)
    (hs : v.settings.lists.verifySignature = true) {σ : Type}
    {servers : (q : Question) → σ → q.Answer × σ} {s s' : σ} {verdict : Verdict}
    {asked : List Question}
    (hv : (v.validate random certificate).run servers s = (some verdict, asked, s'))
    (ho : verdict.outcome = .valid ∨ verdict.outcome = .revoked) :
    ∃ es c armour sub parsed, es = (v.validate random certificate).transcript servers s
      ∧ asked = es.map (·.1) ∧ Certificate.decode? certificate = some c
      ∧ classifyEncoded certificate = .ok (verdict.ecosystem, verdict.holderType)
      ∧ v.registry.anchor verdict.ecosystem .sub = .ok sub
      ∧ (verdict.ecosystem, .sub, armour) ∈ entries ∧ Armour.blocks armour = [.bytes sub.encoding]
      ∧ Certificate.decode? sub.encoding = some parsed ∧ sub.publicKey = parsed.publicKey.encoding
      ∧ (verdict.method = some .responder
          ∧ StatusRequest.RestsOnResponse v.settings.network.maxResponseSize
            (StatusRequest.sentNonce v.settings random) certificate sub es verdict.outcome
        ∨ verdict.method = some .lists
          ∧ RevocationList.RestsOnLists v.settings.network.maxResponseSize sub.publicKey
            c.serialNumber es verdict.outcome) := by
  have hy := Inquiry.yields_transcript servers (congrArg Prod.fst hv)
  have hq := Inquiry.run_asked servers (v.validate random certificate) s
  rw [hv] at hq
  have hd := Outcome.isDefinitive_iff.2 ho
  obtain ⟨sub, m, hc, ha, hm, hr⟩ := validate_yields hy hd
  obtain ⟨c, hcert⟩ := classifyEncoded_eq_ok hc
  obtain ⟨armour, parsed, hmem, hb, hp, hk⟩ := Registry.ofArmoured_anchor hg ha
  refine ⟨_, c, armour, sub, parsed, rfl, hq, hcert, hc, ha, hmem, hb, hp, hk, ?_⟩
  rcases checkRevocation_yields hr hd with ⟨rfl, ha'⟩ | ⟨rfl, es₁, es₂, hes, hfirst, hl⟩
  · exact .inl ⟨hm, StatusRequest.check_restsOnResponse hp hk hd ha'⟩
  · refine .inr ⟨hm, ?_⟩
    rw [checkLists_eq hs, RevocationList.check_yields_iff hcert] at hl
    rw [hes]
    refine (hl.1.restsOnLists ho).append_left fun e he => ?_
    rcases hfirst with rfl | ⟨r, hf⟩
    · cases he
    · exact list?_of_responder hf e he

end

/-- The certificate of the sample issuer in armour. -/
def sampleArmour : Bytes := [
    0x2d2d2d2d2d424547494e2043455254494649434154452d2d2d2d2d0a4d4949424344434273364144,
    0x41674543416745424d413047435371475349623344514542437755414d413078437a414a42674e56,
    0x42414d4d416b4e424d423458445449314d4445774d5441774d4441774d466f5844544d314d444577,
    0x4d5441774d4441774d466f774454454c4d416b474131554541777743513045775844414e42676b71,
    0x686b6947397730424151454641414e4c41444249416b4541764d326a72526a39576c30366e6b4174,
    0x64613933684730374b654b517a4644586f7258564e4f42476f46385142552b2b33434875344c7259,
    0x395a6753653378367576594e743532537a2b5056774a504f504b673942774944415141424d413047,
    0x435371475349623344514542437755414130454145705a797943623033516b765062696c446b6556,
    0x38657a7a556d4376635a51564a6741766b4433687544537444742f6145356d784b72733974752f4f,
    0x4855537673644f49536761674f58375342653774666c306a43413d3d0a2d2d2d2d2d454e44204345
  ].flatMap (Bytes.ofNat 40) ++ Bytes.ofNat 15 0x5254494649434154452d2d2d2d2d0a

/-- The anchor that the sample issuer makes for a place. -/
def sampleAnchor (e : Ecosystem) (r : AnchorRole) : TrustAnchor :=
  (TrustAnchor.ofEncoded e r sampleIssuer).toOption.getD ⟨e, r, [], "", "", [], 0, 0⟩

/-- A validator all of whose anchors are the sample issuer. -/
def sampleValidator : Validator where
  registry := ⟨Registry.places.map fun (e, r) => sampleAnchor e r⟩
  settings := {}

def sampleRandom : Bytes := Bytes.ofNat 16 0x000102030405060708090a0b0c0d0e0f

def sampleServers : (q : Question) → Unit → q.Answer × Unit :=
  alwaysReply ⟨200, ⟨[sampleAnswer], none⟩⟩

theorem blocks_sampleArmour : Armour.blocks sampleArmour = [.bytes sampleIssuer] := by
  decide +kernel

theorem ofArmoured_sample :
    Registry.ofArmoured (Registry.places.map fun (e, r) => (e, r, sampleArmour))
      = .ok sampleValidator.registry := by
  have hd : (Certificate.decode? sampleIssuer).isSome = true := by decide +kernel
  exact Registry.ofArmoured_shared blocks_sampleArmour hd fun e r => ⟨e, r, [], "", "", [], 0, 0⟩

theorem validate_authentic_of_sample :
    ∃ sub, sampleValidator.registry.anchor .securityData .sub = .ok sub
      ∧ ((sampleValidator.validate sampleRandom sampleCertificate).run sampleServers ()).1
        = some ⟨.securityData, .naturalPerson, .valid, some .responder⟩
      ∧ StatusRequest.RestsOnResponse 10485760 (some sampleRandom) sampleCertificate sub
        ((sampleValidator.validate sampleRandom sampleCertificate).transcript sampleServers ())
        .valid := by
  have hv : ((sampleValidator.validate sampleRandom sampleCertificate).run sampleServers ()).1
      = some ⟨.securityData, .naturalPerson, .valid, some .responder⟩ := by decide +kernel
  rcases hrun : (sampleValidator.validate sampleRandom sampleCertificate).run sampleServers ()
    with ⟨verdict, asked, s'⟩
  rw [hrun] at hv
  obtain rfl : verdict = some ⟨.securityData, .naturalPerson, .valid, some .responder⟩ := hv
  obtain ⟨es, c, armour, sub, parsed, hes, -, -, -, ha, -, -, -, -, hr⟩ :=
    validate_authentic ofArmoured_sample rfl hrun (.inl rfl)
  rcases hr with ⟨-, hr⟩ | ⟨hm, -⟩
  · rw [hes] at hr
    exact ⟨sub, ha, rfl, hr⟩
  · cases hm

end SignerTrust.Validator
