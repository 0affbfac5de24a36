import SignerTrust.Proofs.ResponderAnswer

/-!
# Which entry of a response is told

A response that counts may hold several entries about one certificate.  The outcome is that of the
first of them: a revocation is told exactly if no other entry about the certificate stands before
it, and the order of the entries is of no account exactly if those about the certificate tell one
status (`interpret_follows_first_entry`).
-/

namespace SignerTrust

theorem CertStatus.outcome_inj {s t : CertStatus} (h : s.outcome = t.outcome) : s = t := by
  cases s <;> cases t <;> first | rfl | cases h

theorem CertStatus.outcome_eq_revoked_iff {s : CertStatus} :
    s.outcome = .revoked ↔ s = .revoked := by
  constructor
  · intro h
    exact outcome_inj h
  · rintro rfl
    rfl

namespace BasicResponse

/-- The entries about a certificate, in order. -/
def entriesAbout (r : BasicResponse) (id : CertId) : List SingleResponse :=
  r.data.responses.filter fun s => s.certificate.sameCertificate id

/-- A response with other entries. -/
def withEntries (r : BasicResponse) (entries : List SingleResponse) : BasicResponse :=
  { r with data := { r.data with responses := entries } }

@[simp] theorem responses_withEntries (r : BasicResponse) (entries : List SingleResponse) :
    (r.withEntries entries).data.responses = entries := rfl

/-- Whether the entries about a certificate tell one status. -/
def Unanimous (r : BasicResponse) (id : CertId) : Prop :=
  ∀ s ∈ r.entriesAbout id, ∀ t ∈ r.entriesAbout id, s.status = t.status

variable {r : BasicResponse} {id : CertId}

theorem entry?_eq_head? (r : BasicResponse) (id : CertId) :
    r.entry? id = (r.entriesAbout id).head? := by
  rw [ entry?, entriesAbout, List.head?_filter]

theorem statusOf_of_nil (h : r.entriesAbout id = []) : r.statusOf id = .unknown := by
  rw [statusOf_eq, entry?_eq_head?, h]
  rfl

theorem statusOf_of_cons {s : SingleResponse} {rest : List SingleResponse}
    (h : r.entriesAbout id = s :: rest) : r.statusOf id = s.status.outcome := by
  rw [statusOf_eq, entry?_eq_head?, h]
  rfl

/-- An entry that is put in front of the others is the one that is told. -/
theorem statusOf_withEntries_cons {s : SingleResponse} (rest : List SingleResponse)
    (hs : s.certificate.sameCertificate id = true) :
    (r.withEntries (s :: rest)).statusOf id = s.status.outcome := by
  have he : (r.withEntries (s :: rest)).entriesAbout id
      = s :: rest.filter fun s => s.certificate.sameCertificate id := by
    rw [entriesAbout, responses_withEntries]
    exact List.filter_cons_of_pos hs
  exact statusOf_of_cons he

theorem statusOf_eq_revoked_iff : r.statusOf id = .revoked ↔
    ∃ before s after, r.data.responses = before ++ s :: after
      ∧ (∀ u ∈ before, u.certificate.sameCertificate id = false)
      ∧ s.certificate.sameCertificate id = true ∧ s.status = .revoked := by
  rw [statusOf_eq]
  constructor
  · intro h
    rcases he : r.entry? id with _ | s <;> rw [he] at h
    · cases h
    obtain ⟨hs, before, after, hl, hb⟩ := List.find?_eq_some_iff_append.1 he
    exact ⟨before, s, after, hl, by simpa using hb, hs, CertStatus.outcome_eq_revoked_iff.1 h⟩
  · rintro ⟨before, s, after, hl, hb, hs, hr⟩
    have he : r.entry? id = some s :=
      List.find?_eq_some_iff_append.2 ⟨hs, before, after, hl, by simpa using hb⟩
    rw [he]
    exact CertStatus.outcome_eq_revoked_iff.2 hr

theorem Unanimous.statusOf_eq (h : r.Unanimous id) {s : SingleResponse}
    (hs : s ∈ r.entriesAbout id) : r.statusOf id = s.status.outcome := by
  rcases he : r.entriesAbout id with _ | ⟨t, rest⟩
  · rw [he] at hs
    cases hs
  · have ht : t ∈ r.entriesAbout id := he ▸ List.mem_cons_self
    rw [statusOf_of_cons he, h t ht s hs]

/-- If the entries about a certificate tell one status, it is told in every order of the entries. -/
theorem Unanimous.statusOf_perm (h : r.Unanimous id) {r' : BasicResponse}
    (hp : r'.data.responses.Perm r.data.responses) : r'.statusOf id = r.statusOf id := by
  have hf : (r'.entriesAbout id).Perm (r.entriesAbout id) := hp.filter _
  rcases he : r'.entriesAbout id with _ | ⟨s, rest⟩
  · rw [he, List.nil_perm] at hf
    rw [statusOf_of_nil he, statusOf_of_nil hf]
  · have hs : s ∈ r.entriesAbout id := hf.subset (he ▸ List.mem_cons_self)
    rw [statusOf_of_cons he, h.statusOf_eq hs]

theorem unanimous_iff_perm : r.Unanimous id ↔ ∀ entries : List SingleResponse,
    entries.Perm r.data.responses → (r.withEntries entries).statusOf id = r.statusOf id := by
  constructor
  · intro h entries hp
    exact h.statusOf_perm hp
  · intro h
    -- each entry about the certificate is told by the order in which it stands first
    have told : ∀ s ∈ r.entriesAbout id, s.status.outcome = r.statusOf id := by
      intro s hs
      obtain ⟨hm, hsame⟩ := List.mem_filter.1 hs
      rw [← h (s :: r.data.responses.erase s) (List.perm_cons_erase hm).symm]
      exact (statusOf_withEntries_cons _ hsame).symm
    intro s hs t ht
    exact CertStatus.outcome_inj ((told s hs).trans (told t ht).symm)

end BasicResponse

namespace StatusResponse

theorem interpret_of_counts [CryptoLibrary] {bytes : Bytes} {x : Expectation}
    {body : Option (Canonical.Arcs × Bytes)} {r : BasicResponse}
    (hd : decode? bytes = some ⟨.successful, body⟩) (hr : Counts body x r) :
    interpret bytes x = r.statusOf x.certificate := by
  simp only [interpret, hd, verified_ok hr]

/-- A response that counts gives a certificate as revoked exactly if the first entry about it does.
It gives the same outcome in every order of its entries exactly if those about the certificate tell
one status; that status is the outcome then, also of every other response that counts and holds the
same entries in some order. -/
theorem interpret_follows_first_entry [CryptoLibrary] {bytes : Bytes} {x : Expectation}
    {body : Option (Canonical.Arcs × Bytes)} {r : BasicResponse}
    (hd : decode? bytes = some ⟨.successful, body⟩) (hr : Counts body x r) :
    (interpret bytes x = .revoked ↔ ∃ before s after, r.data.responses = before ++ s :: after
      ∧ (∀ u ∈ before, u.certificate.sameCertificate x.certificate = false)
      ∧ s.certificate.sameCertificate x.certificate = true ∧ s.status = .revoked)
    ∧ (r.Unanimous x.certificate ↔ ∀ entries : List SingleResponse,
      entries.Perm r.data.responses →
        (r.withEntries entries).statusOf x.certificate = interpret bytes x)
    ∧ (r.Unanimous x.certificate →
      (∀ s ∈ r.entriesAbout x.certificate, interpret bytes x = s.status.outcome)
      ∧ ∀ bytes' x' body' r', decode? bytes' = some ⟨.successful, body'⟩ → Counts body' x' r' →
        x'.certificate = x.certificate → r'.data.responses.Perm r.data.responses →
        interpret bytes' x' = interpret bytes x) := by
  rw [interpret_of_counts hd hr]
  refine ⟨BasicResponse.statusOf_eq_revoked_iff, BasicResponse.unanimous_iff_perm,
    fun hu => ⟨fun s hs => hu.statusOf_eq hs, ?_⟩⟩
  intro bytes' x' body' r' hd' hr' hx hp
  rw [interpret_of_counts hd' hr', hx]
  exact hu.statusOf_perm hp

/-- A response about the sample certificate with two entries, the first good and the second
revoked. -/
def goodThenRevoked : Bytes := [
    0x308201540a0100a082014d3082014906092b06010505073001010482013a308201363081e1a21604,
    0x1461c24a6d6f386a4dceb4adcb901021823d396b44180f32303235303630313030303030305a3081,
    0xb53050303b300906052b0e03021a05000414711d397671c9facf2242095925979a0698e46b110414,
    0x61c24a6d6f386a4dceb4adcb901021823d396b44020210018000180f323032353036303130303030,
    0x30305a3061303b300906052b0e03021a05000414711d397671c9facf2242095925979a0698e46b11,
    0x041461c24a6d6f386a4dceb4adcb901021823d396b4402021001a111180f32303235303530313030,
    0x303030305a180f32303235303630313030303030305a300d06092a864886f70d01010b0500034100,
    0xaa1230e289474de42f8ba6de1c301c9013db2dd3ec4aaf082de1d8201b218eab70786c27d133c983
  ].flatMap (Bytes.ofNat 40) ++ Bytes.ofNat 24 0xf49497d41ca66d565e879f2e87581e89ac4e5641eb1463a7

/-- The same entries the other way round, signed as well. -/
def revokedThenGood : Bytes := [
    0x308201540a0100a082014d3082014906092b06010505073001010482013a308201363081e1a21604,
    0x1461c24a6d6f386a4dceb4adcb901021823d396b44180f32303235303630313030303030305a3081,
    0xb53061303b300906052b0e03021a05000414711d397671c9facf2242095925979a0698e46b110414,
    0x61c24a6d6f386a4dceb4adcb901021823d396b4402021001a111180f323032353035303130303030,
    0x30305a180f32303235303630313030303030305a3050303b300906052b0e03021a05000414711d39,
    0x7671c9facf2242095925979a0698e46b11041461c24a6d6f386a4dceb4adcb901021823d396b4402,
    0x0210018000180f32303235303630313030303030305a300d06092a864886f70d01010b0500034100,
    0x7e24023f680980f4445eb5805a135699a3c2d1f9923c4431200921c0a1fa86d09925bc4b5116a217
  ].flatMap (Bytes.ofNat 40) ++ Bytes.ofNat 24 0xca75ceb785485bda049b2235d46692fa1a4e40534ee77241

/-- The entries that an encoded response holds. -/
def entries (bytes : Bytes) : List SingleResponse :=
  match (decode? bytes).bind (·.body) with
  | none => []
  | some (_, body) => ((BasicResponse.decode? body).map (·.data.responses)).getD []

theorem responses_of_counts [CryptoLibrary] {bytes : Bytes} {x : Expectation}
    {body : Option (Canonical.Arcs × Bytes)} {r : BasicResponse}
    (hd : decode? bytes = some ⟨.successful, body⟩) (hr : Counts body x r) :
    r.data.responses = entries bytes := by
  obtain ⟨basic, -, rfl, hb, -, -⟩ := hr
  simp only [entries, hd, Option.bind_some, hb, Option.map_some, Option.getD_some]

theorem interpret_revokedThenGood : interpret revokedThenGood sampleQuestion = .revoked := by
  decide +kernel

theorem interpret_follows_first_entry_of_revoked :
    ∃ body r, decode? revokedThenGood = some ⟨.successful, body⟩ ∧ Counts body sampleQuestion r
      ∧ ∃ before s after, r.data.responses = before ++ s :: after
        ∧ (∀ u ∈ before, u.certificate.sameCertificate sampleQuestion.certificate = false)
        ∧ s.certificate.sameCertificate sampleQuestion.certificate = true
        ∧ s.status = .revoked := by
  have ho := interpret_revokedThenGood
  obtain ⟨body, r, -, hd, hr, -, -⟩ := interpret_definitive (Outcome.isDefinitive_iff.2 (.inr ho))
  exact ⟨body, r, hd, hr, (interpret_follows_first_entry hd hr).1.1 ho⟩

/-- Two responses that count and hold the same entries: the one that gives the certificate as good
before it gives it as revoked tells that it is good. -/
theorem interpret_misses_revoked :
    Expectation.ofEncoded? sampleCertificate sampleIssuer none = some sampleQuestion
      ∧ ∃ body r body' r', decode? goodThenRevoked = some ⟨.successful, body⟩
        ∧ Counts body sampleQuestion r
        ∧ (∃ s ∈ r.entriesAbout sampleQuestion.certificate, s.status = .revoked)
        ∧ interpret goodThenRevoked sampleQuestion = .valid
        ∧ decode? revokedThenGood = some ⟨.successful, body'⟩ ∧ Counts body' sampleQuestion r'
        ∧ r'.data.responses.Perm r.data.responses
        ∧ interpret revokedThenGood sampleQuestion = .revoked := by
  have ho : interpret goodThenRevoked sampleQuestion = .valid := by decide +kernel
  have ho' := interpret_revokedThenGood
  have he : entries goodThenRevoked
      = [⟨sampleQuestion.certificate, .good⟩, ⟨sampleQuestion.certificate, .revoked⟩] := by
    decide +kernel
  have he' : entries revokedThenGood
      = [⟨sampleQuestion.certificate, .revoked⟩, ⟨sampleQuestion.certificate, .good⟩] := by
    decide +kernel
  obtain ⟨body, r, -, hd, hr, -, -⟩ := interpret_definitive (Outcome.isDefinitive_iff.2 (.inl ho))
  obtain ⟨body', r', -, hd', hr', -, -⟩ :=
    interpret_definitive (Outcome.isDefinitive_iff.2 (.inr ho'))
  rw [← responses_of_counts hd hr] at he
  rw [← responses_of_counts hd' hr'] at he'
  refine ⟨by decide +kernel, body, r, body', r', hd, hr, ?_, ho, hd', hr', ?_, ho'⟩
  · refine ⟨⟨sampleQuestion.certificate, .revoked⟩, List.mem_filter.2 ⟨?_, ?_⟩, rfl⟩
    · rw [he]
      exact List.mem_cons_of_mem _ List.mem_cons_self
    · simp [CertId.sameCertificate]
  · rw [he, he']
    exact List.Perm.swap _ _ []

end StatusResponse

end SignerTrust
