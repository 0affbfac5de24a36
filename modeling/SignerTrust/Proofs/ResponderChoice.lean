import SignerTrust.Proofs.ResponderAnswer
import SignerTrust.Proofs.SignedPart

/-!
# Which certificate sent along is taken for the responder's

A response may bring several certificates that name its responder.  The first of them is taken, and
only then is it looked at: if it is not authorised, or the signature does not hold under its key,
the response is refused, though the issuer or a certificate further back may have signed it.  So a
response with a signer gets past its signature in every order of its certificates, and whatever
further ones are sent along, exactly if all that name the responder fit
(`verified_takes_first_named`).
-/

namespace SignerTrust

namespace BasicResponse

variable {r : BasicResponse} {signed issuerKey : Bytes} {c : Canonical.Certificate}

/-- The certificates sent along. -/
def sent (r : BasicResponse) : List Canonical.Certificate :=
  r.certificates.getD []

/-- A response with other certificates sent along. -/
def withCertificates (r : BasicResponse) (cs : List Canonical.Certificate) : BasicResponse :=
  { r with certificates := some cs }

theorem responder?_withCertificates (r : BasicResponse) (cs : List Canonical.Certificate) :
    (r.withCertificates cs).responder? = cs.find? fun c => c.isOf r.data.responder := rfl

theorem responder?_eq (r : BasicResponse) :
    r.responder? = r.sent.find? fun c => c.isOf r.data.responder := rfl

theorem error_of_checkNonce {expected : Option Bytes} {e : ResponseError}
    (h : r.checkNonce expected = .error e) : e = .missingNonce ∨ e = .nonceMismatch := by
  rcases expected with _ | nonce
  · cases h
  simp only [checkNonce] at h
  split at h
  · cases h
    exact .inl rfl
  split_ifs at h
  cases h
  exact .inr rfl

theorem checkNonce_congr {r' : BasicResponse} (h : r'.data = r.data) (expected : Option Bytes) :
    r'.checkNonce expected = r.checkNonce expected := by
  rcases expected with _ | nonce
  · rfl
  · simp only [checkNonce, h]

variable [CryptoLibrary]

def SignatureHolds (r : BasicResponse) (signed key : Bytes) : Prop :=
  Signature.verify (Canonical.dotted r.algorithm.algorithm) r.signature.data signed key = .ok ()

/-- Whether a certificate is the issuer's or authorised by it, and the signature holds under its
key. -/
def Fits (r : BasicResponse) (signed issuerKey : Bytes) (c : Canonical.Certificate) : Prop :=
  (c.publicKey.encode = issuerKey ∨ c.IsIssuedBy issuerKey ∧ c.isStatusSigner = true)
    ∧ r.SignatureHolds signed c.publicKey.encode

/-- Whether the signature holds under some key that may sign for the issuer. -/
def HasSigner (r : BasicResponse) (signed issuerKey : Bytes) : Prop :=
  ∃ key, r.MaySign issuerKey key ∧ r.SignatureHolds signed key

/-- Whether a response gets past its signature: the responder that is taken may sign, and has. -/
def Passes (r : BasicResponse) (signed issuerKey : Bytes) : Prop :=
  r.TrustsResponder issuerKey ∧ r.SignatureHolds signed (r.responderKey issuerKey)

theorem passes_of_none (h : r.responder? = none) :
    r.Passes signed issuerKey ↔ r.SignatureHolds signed issuerKey := by
  simp [Passes, TrustsResponder, responderKey, h]

theorem passes_of_some (h : r.responder? = some c) :
    r.Passes signed issuerKey ↔ r.Fits signed issuerKey c := by
  simp [Passes, TrustsResponder, responderKey, Fits, h]

/-- Of the certificates sent along, only the one that is taken for the responder's matters. -/
theorem passes_congr {r' : BasicResponse} (hr : r'.responder? = r.responder?)
    (ha : r'.algorithm = r.algorithm) (hs : r'.signature = r.signature) :
    r'.Passes signed issuerKey ↔ r.Passes signed issuerKey := by
  simp only [Passes, TrustsResponder, responderKey, SignatureHolds, hr, ha, hs]

theorem Passes.hasSigner (h : r.Passes signed issuerKey) : r.HasSigner signed issuerKey :=
  ⟨_, h.1.maySign, h.2⟩

/-- A response with a signer gets past its signature if the certificates sent along that name the
responder fit. -/
theorem HasSigner.passes (h : r.HasSigner signed issuerKey)
    (hf : ∀ c ∈ r.sent, c.isOf r.data.responder = true → r.Fits signed issuerKey c) :
    r.Passes signed issuerKey := by
  rcases hc : r.responder? with _ | c
  · rw [passes_of_none hc]
    obtain ⟨key, rfl | ⟨c, hm, hn, -⟩, hkey⟩ := h
    · exact hkey
    · rw [responder?_eq, List.find?_eq_none] at hc
      exact absurd hn (hc c hm)
  · rw [passes_of_some hc]
    rw [responder?_eq] at hc
    have hn := List.find?_some hc
    exact hf c (List.mem_of_find?_eq_some hc) hn

theorem HasSigner.withCertificates (h : r.HasSigner signed issuerKey)
    {cs : List Canonical.Certificate} (hs : r.sent ⊆ cs) :
    (r.withCertificates cs).HasSigner signed issuerKey := by
  obtain ⟨key, rfl | ⟨c, hm, hc⟩, hkey⟩ := h
  · exact ⟨key, .inl rfl, hkey⟩
  · exact ⟨key, .inr ⟨c, hs hm, hc⟩, hkey⟩

theorem Passes.fits_of_cons {cs : List Canonical.Certificate}
    (h : (r.withCertificates (c :: cs)).Passes signed issuerKey)
    (hn : c.isOf r.data.responder = true) : r.Fits signed issuerKey c := by
  have hc : (r.withCertificates (c :: cs)).responder? = some c := by
    rw [responder?_withCertificates]
    exact List.find?_cons_of_pos hn
  exact (passes_of_some hc).1 h

/-- A response with a signer gets past its signature with certificates added and in every order
exactly if all that name the responder fit. -/
theorem HasSigner.passes_perm_iff (h : r.HasSigner signed issuerKey)
    (extra : List Canonical.Certificate) :
    (∀ cs : List Canonical.Certificate, cs.Perm (r.sent ++ extra) →
        (r.withCertificates cs).Passes signed issuerKey)
      ↔ ∀ c ∈ r.sent ++ extra, c.isOf r.data.responder = true → r.Fits signed issuerKey c := by
  constructor
  · intro hp c hm hn
    -- the order in which the certificate stands first has it taken
    exact (hp _ (List.perm_cons_erase hm).symm).fits_of_cons hn
  · intro hf cs hp
    have hs : r.sent ⊆ cs := fun c hm => hp.symm.subset (List.mem_append_left extra hm)
    refine (h.withCertificates hs).passes ?_
    intro c hm hn
    exact hf c (hp.subset hm) hn

/-- What gets past its signature still does with certificates put in anywhere exactly if the first
of them that names the responder fits. -/
theorem Passes.insert_iff (h : r.Passes signed issuerKey) (extra : List Canonical.Certificate) :
    (∀ before after, r.sent = before ++ after →
        (r.withCertificates (before ++ extra ++ after)).Passes signed issuerKey)
      ↔ ∀ c, extra.find? (fun c => c.isOf r.data.responder) = some c →
        r.Fits signed issuerKey c := by
  constructor
  · intro hp c hc
    have hfirst : (r.withCertificates ([] ++ extra ++ r.sent)).responder? = some c := by
      simp [responder?_withCertificates, List.find?_append, hc]
    exact (passes_of_some hfirst).1 (hp [] r.sent rfl)
  · intro hf before after hs
    have hold : r.responder? = (before.find? fun c => c.isOf r.data.responder).or
        (after.find? fun c => c.isOf r.data.responder) := by
      rw [responder?_eq, hs, List.find?_append]
    have hnew : (r.withCertificates (before ++ extra ++ after)).responder?
        = ((before.find? fun c => c.isOf r.data.responder).or
            (extra.find? fun c => c.isOf r.data.responder)).or
          (after.find? fun c => c.isOf r.data.responder) := by
      rw [responder?_withCertificates, List.find?_append, List.find?_append]
    rcases hb : before.find? fun c => c.isOf r.data.responder with _ | c
    · rcases he : extra.find? fun c => c.isOf r.data.responder with _ | c
      · -- nothing before them is named, nor any of them: the choice is that of the rest
        rw [hb, Option.none_or] at hold
        rw [hb, he, Option.none_or, Option.none_or, ← hold] at hnew
        exact (passes_congr hnew rfl rfl).2 h
      · rw [hb, he, Option.none_or, Option.some_or] at hnew
        exact (passes_of_some hnew).2 (hf c he)
    · rw [hb, Option.some_or] at hold
      rw [hb, Option.some_or, Option.some_or] at hnew
      exact (passes_of_some hnew).2 ((passes_of_some hold).1 h)

/-- No certificate is refused for its nonce. -/
theorem error_of_signerKey {e : ResponseError} (h : r.signerKey issuerKey = .error e) :
    e = .library ∨ e = .untrustedResponder ∨ e = .unauthorizedResponder := by
  unfold signerKey at h
  split at h
  · cases h
  simp only at h
  split at h
  · cases h
  split at h
  · cases h
    exact .inl rfl
  · cases h
    exact .inr (.inl rfl)
  · split_ifs at h
    cases h
    exact .inr (.inr rfl)

end BasicResponse

namespace StatusResponse

/-- Whether the check of a response got past its signature: what it failed by, if it failed, is the
nonce. -/
def PastSignature (result : Except ResponseError Outcome) : Prop :=
  ∀ e, result = .error e → e = .missingNonce ∨ e = .nonceMismatch

section Passes

variable [CryptoLibrary] {bytes signed : Bytes} {r : BasicResponse}

theorem verified_of_passes (hd : BasicResponse.decode? bytes = some r)
    (hs : BasicResponse.signedPart? bytes = some signed) {x : Expectation}
    (h : r.Passes signed x.issuerKey) : verified (some (BasicResponse.kind, bytes)) x
      = (r.checkNonce x.nonce).map fun _ => r.statusOf x.certificate := by
  have hkey := BasicResponse.signerKey_eq_ok_iff.2 ⟨h.1, rfl⟩
  have hsig : Signature.verify (Canonical.dotted r.algorithm.algorithm) r.signature.data signed
      (r.responderKey x.issuerKey) = .ok () := h.2
  simp only [verified, ne_eq, not_true_eq_false, if_false, hd, hs, hkey, bind, Except.bind, hsig]
  rcases r.checkNonce x.nonce with e | u <;> rfl

theorem verified_of_not_passes (hd : BasicResponse.decode? bytes = some r)
    (hs : BasicResponse.signedPart? bytes = some signed) {x : Expectation}
    (h : ¬ r.Passes signed x.issuerKey) :
    ∃ e, verified (some (BasicResponse.kind, bytes)) x = .error e
      ∧ e ≠ .missingNonce ∧ e ≠ .nonceMismatch := by
  simp only [verified, ne_eq, not_true_eq_false, if_false, hd, hs, bind, Except.bind]
  rcases hkey : r.signerKey x.issuerKey with e | key
  · refine ⟨e, rfl, ?_⟩
    rcases BasicResponse.error_of_signerKey hkey with rfl | rfl | rfl <;> simp
  obtain ⟨ht, rfl⟩ := BasicResponse.signerKey_eq_ok_iff.1 hkey
  rcases hv : Signature.verify (Canonical.dotted r.algorithm.algorithm) r.signature.data signed
    (r.responderKey x.issuerKey) with e | u
  · exact ⟨.badSignature e, by simp only [hv]; rfl, by simp⟩
  · exact absurd ⟨ht, hv⟩ h

theorem pastSignature_iff (hd : BasicResponse.decode? bytes = some r)
    (hs : BasicResponse.signedPart? bytes = some signed) {x : Expectation} :
    PastSignature (verified (some (BasicResponse.kind, bytes)) x)
      ↔ r.Passes signed x.issuerKey := by
  constructor
  · intro hp
    by_contra h
    obtain ⟨e, he, hm, hn⟩ := verified_of_not_passes hd hs h
    rcases hp e he with rfl | rfl
    · exact hm rfl
    · exact hn rfl
  · intro h e he
    rw [verified_of_passes hd hs h] at he
    rcases hn : r.checkNonce x.nonce with e' | u <;> rw [hn] at he
    · cases he
      exact BasicResponse.error_of_checkNonce hn
    · cases he

/-- A response whose body can be read gets past its signature exactly if the first certificate sent
along that names the responder fits, or there is none and the issuer signed it; it has a signer
then.  One that has a signer does so with further certificates and in every order exactly if each
that names the responder fits, and what does so still does with further ones put in exactly if the
first of these that names the responder fits.  Where the same is signed, by one signature, only the
certificates sent along decide, and what gets past its signature has one result. -/
theorem verified_takes_first_named (hd : BasicResponse.decode? bytes = some r)
    (hs : BasicResponse.signedPart? bytes = some signed) (x : Expectation) :
    (PastSignature (verified (some (BasicResponse.kind, bytes)) x)
      ↔ match r.sent.find? fun c => c.isOf r.data.responder with
        | none => r.SignatureHolds signed x.issuerKey
        | some c => r.Fits signed x.issuerKey c)
    ∧ (PastSignature (verified (some (BasicResponse.kind, bytes)) x) →
      r.HasSigner signed x.issuerKey)
    ∧ (r.HasSigner signed x.issuerKey → ∀ extra,
      ((∀ cs : List Canonical.Certificate, cs.Perm (r.sent ++ extra) →
          (r.withCertificates cs).Passes signed x.issuerKey)
        ↔ ∀ c ∈ r.sent ++ extra, c.isOf r.data.responder = true → r.Fits signed x.issuerKey c))
    ∧ (PastSignature (verified (some (BasicResponse.kind, bytes)) x) → ∀ extra,
      ((∀ before after, r.sent = before ++ after →
          (r.withCertificates (before ++ extra ++ after)).Passes signed x.issuerKey)
        ↔ ∀ c, extra.find? (fun c => c.isOf r.data.responder) = some c →
          r.Fits signed x.issuerKey c))
    ∧ ∀ bytes' r', BasicResponse.decode? bytes' = some r' →
      BasicResponse.signedPart? bytes' = some signed → r'.algorithm = r.algorithm →
      r'.signature = r.signature →
      (PastSignature (verified (some (BasicResponse.kind, bytes')) x)
        ↔ (r.withCertificates r'.sent).Passes signed x.issuerKey)
      ∧ (PastSignature (verified (some (BasicResponse.kind, bytes)) x) →
        PastSignature (verified (some (BasicResponse.kind, bytes')) x) →
        verified (some (BasicResponse.kind, bytes')) x
          = verified (some (BasicResponse.kind, bytes)) x) := by
  rw [pastSignature_iff hd hs]
  refine ⟨?_, fun h => h.hasSigner, fun h extra => h.passes_perm_iff extra,
    fun h extra => h.insert_iff extra, ?_⟩
  · rw [← BasicResponse.responder?_eq]
    rcases hc : r.responder? with _ | c
    · exact BasicResponse.passes_of_none hc
    · exact BasicResponse.passes_of_some hc
  · intro bytes' r' hd' hs' ha hsig
    have hdata : r'.data = r.data :=
      BasicResponse.data_eq_of_signedPart hd hd' (hs'.trans hs.symm)
    rw [pastSignature_iff hd' hs']
    constructor
    · have hc : r'.responder? = (r.withCertificates r'.sent).responder? := by
        rw [BasicResponse.responder?_withCertificates, BasicResponse.responder?_eq, hdata]
      exact BasicResponse.passes_congr hc ha hsig
    · intro h h'
      rw [verified_of_passes hd hs h, verified_of_passes hd' hs' h',
        BasicResponse.checkNonce_congr hdata, BasicResponse.statusOf_congr hdata]

end Passes

/-- The certificate of a responder, which the sample issuer authorised. -/
def statusSigner : Bytes := [
    0x308201203081cba003020102020103300d06092a864886f70d01010b0500300d310b300906035504,
    0x030c024341301e170d3235303130313030303030305a170d3335303130313030303030305a300c31,
    0x0a300806035504030c0152305c300d06092a864886f70d0101010500034b003048024100daaeb034,
    0xc1a811dfc52bd9e2c005d71bb1f9bd2b230215ab0b25e73b6eeb4d1320f56520a78caebb6140afc3,
    0x341952f9f2ae28653f54f7bee2d765f6d611ce630203010001a317301530130603551d25040c300a,
    0x06082b06010505070309300d06092a864886f70d01010b050003410021ab4ae2707be47332c966dd,
    0x1d72cfebe24ad72e96399d61533f529e069f78c5317a27f2488afa3e5d68d8241ccd67eb4b5afb1b
  ].flatMap (Bytes.ofNat 40) ++ Bytes.ofNat 12 0xfd1ebe4beef74de0b1582838

/-- A certificate of the same name, which it did not. -/
def namesake : Bytes := [
    0x308201063081b1a003020102020101300d06092a864886f70d01010b0500300c310a300806035504,
    0x030c0152301e170d3235303130313030303030305a170d3335303130313030303030305a300c310a,
    0x300806035504030c0152305c300d06092a864886f70d0101010500034b003048024100e59780309c,
    0xd796c812dc9a466601318c99aaececda38dcd076376c29c608ed5461bf03ed2e1c7398906116c5fc,
    0x01331c3ce95b00d0b27f9fa5e59eca4c90701d0203010001300d06092a864886f70d01010b050003,
    0x41008ef1442300bf976b9d8a5317627caaddc66eed56a870fce748de2ec0ffd8d9f09ece7bec50f2
  ].flatMap (Bytes.ofNat 40) ++ Bytes.ofNat 26
    0xd1aaf21cf1a37243be96f02775eaf6ea6a15c8a73a3fea333032

/-- What that responder signed about the sample certificate. -/
def delegatedPart : Bytes := [
    0x3075a10e300c310a300806035504030c0152180f32303235303630313030303030305a3052305030,
    0x3b300906052b0e03021a05000414711d397671c9facf2242095925979a0698e46b11041461c24a6d
  ].flatMap (Bytes.ofNat 40) ++ Bytes.ofNat 39
    0x6f386a4dceb4adcb901021823d396b44020210018000180f32303235303630313030303030305a

/-- The body with its signature and the certificates sent along. -/
def delegated (certificates : List Bytes) : Bytes :=
  let signature : Bytes := [
      0x300d06092a864886f70d01010b0500034100396976642ed77e6d4002efab42e33a07342b77cc9b7f,
      0x5264546ab16c6249fc720b6192f4e9876b247eed395d28ee1ecbd30d2e55699856de39b7368bda33
    ].flatMap (Bytes.ofNat 40) ++ Bytes.ofNat 2 0xe758
  Der.encode 0x30 (delegatedPart ++ signature
    ++ Der.encode 0xa0 (Der.encode 0x30 certificates.flatten))

/-- A successful response with a body. -/
def withBody (body : Bytes) : Bytes :=
  Der.encode 0x30 (Der.encode 0x0a [0] ++ Der.encode 0xa0 (Der.encode 0x30
    (Canonical.encodeOid BasicResponse.kind ++ Der.encode 0x04 body)))

theorem verified_takes_first_named_of_delegated :
    ∃ r, BasicResponse.decode? (delegated [statusSigner, namesake]) = some r
      ∧ BasicResponse.signedPart? (delegated [statusSigner, namesake]) = some delegatedPart
      ∧ r.HasSigner delegatedPart sampleQuestion.issuerKey := by
  obtain ⟨r, hd⟩ : ∃ r, BasicResponse.decode? (delegated [statusSigner, namesake]) = some r :=
    Option.isSome_iff_exists.1 (by decide +kernel)
  have hs : BasicResponse.signedPart? (delegated [statusSigner, namesake])
      = some delegatedPart := by decide +kernel
  have hv : verified (some (BasicResponse.kind, delegated [statusSigner, namesake])) sampleQuestion
      = .ok .valid := by decide +kernel
  refine ⟨r, hd, hs, (verified_takes_first_named hd hs sampleQuestion).2.1 ?_⟩
  intro e he
  cases hv.symm.trans he

/-- A response that its responder signed, with an authorised certificate sent along, is refused as
another certificate of that name stands before it.  It counts with the two the other way round, and
without the other. -/
theorem verified_misses_signer :
    ∃ r, BasicResponse.decode? (delegated [namesake, statusSigner]) = some r
      ∧ BasicResponse.signedPart? (delegated [namesake, statusSigner]) = some delegatedPart
      ∧ (∃ c ∈ r.sent, c.isOf r.data.responder = true
        ∧ c.IsIssuedBy sampleQuestion.issuerKey ∧ c.isStatusSigner = true
        ∧ r.SignatureHolds delegatedPart c.publicKey.encode)
      ∧ ¬ PastSignature (verified
        (some (BasicResponse.kind, delegated [namesake, statusSigner])) sampleQuestion)
      ∧ verifyResponse (withBody (delegated [namesake, statusSigner])) sampleCertificate
        sampleIssuer none = .serverError
      ∧ ∀ certificates ∈ [[statusSigner, namesake], [statusSigner]],
        verifyResponse (withBody (delegated certificates)) sampleCertificate sampleIssuer none
          = .valid := by
  obtain ⟨r, hd⟩ : ∃ r, BasicResponse.decode? (delegated [namesake, statusSigner]) = some r :=
    Option.isSome_iff_exists.1 (by decide +kernel)
  have hv : verified (some (BasicResponse.kind, delegated [namesake, statusSigner])) sampleQuestion
      = .error .untrustedResponder := by decide +kernel
  have hc : (BasicResponse.decode? (delegated [namesake, statusSigner])).map (fun r =>
      r.sent.any fun c => c.isOf r.data.responder
        && (decide (c.issuedBy? sampleQuestion.issuerKey = some true) && (c.isStatusSigner
          && decide (Signature.verify (Canonical.dotted r.algorithm.algorithm)
            r.signature.data delegatedPart c.publicKey.encode = .ok ())))) = some true := by
    decide +kernel
  refine ⟨r, hd, by decide +kernel, ?_, ?_, by decide +kernel, by decide +kernel⟩
  · rw [hd] at hc
    simpa [BasicResponse.SignatureHolds, Canonical.Certificate.issuedBy?_eq_true_iff] using hc
  · intro hp
    rcases hp _ hv with he | he <;> cases he

end StatusResponse

end SignerTrust
