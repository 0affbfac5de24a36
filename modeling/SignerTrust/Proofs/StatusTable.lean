import SignerTrust.Proofs.Accepted
import SignerTrust.Signature.Reference

/-!
# The table of response outcomes

`Tells` lists, case by case, which outcome an encoded response gives about what was asked: the
report of a failure gives its own, a successful response that does not count gives an error of the
server, and one that counts gives the status of the first entry for the certificate, or none.  The
interpretation of a response is this table (`interpret_eq_iff`), and so is the outcome of a response
about an encoded certificate.
-/

namespace SignerTrust

section

variable [CryptoLibrary]

namespace StatusResponse

/-- The outcome of an encoded response about what was asked, case by case. -/
inductive Tells (bytes : Bytes) (x : Expectation) : Outcome → Prop
  | unreadable (h : decode? bytes = none) : Tells bytes x .serverError
  | malformedRequest {body} (h : decode? bytes = some ⟨.malformedRequest, body⟩) :
    Tells bytes x .malformedRequest
  | internalError {body} (h : decode? bytes = some ⟨.internalError, body⟩) :
    Tells bytes x .serverError
  | tryLater {body} (h : decode? bytes = some ⟨.tryLater, body⟩) : Tells bytes x .serverError
  | signatureRequired {body} (h : decode? bytes = some ⟨.signatureRequired, body⟩) :
    Tells bytes x .sigRequired
  | unauthorized {body} (h : decode? bytes = some ⟨.unauthorized, body⟩) :
    Tells bytes x .unauthorized
  | rejected {body} (h : decode? bytes = some ⟨.successful, body⟩)
      (hn : ∀ r, ¬ Counts body x r) : Tells bytes x .serverError
  | noEntry {body r} (h : decode? bytes = some ⟨.successful, body⟩) (hr : Counts body x r)
      (he : r.entry? x.certificate = none) : Tells bytes x .unknown
  | entry {body r s} (h : decode? bytes = some ⟨.successful, body⟩) (hr : Counts body x r)
      (he : r.entry? x.certificate = some s) : Tells bytes x s.status.outcome

theorem verified_ok {body : Option (Canonical.Arcs × Bytes)} {x : Expectation}
    {r : BasicResponse} (h : Counts body x r) : verified body x = .ok (r.statusOf x.certificate) :=
  verified_eq_ok_iff.2 ⟨r, h, rfl⟩

/-- The table holds a row for every response. -/
theorem tells_interpret (bytes : Bytes) (x : Expectation) :
    Tells bytes x (interpret bytes x) := by
  unfold interpret
  rcases h : decode? bytes with _ | ⟨status, body⟩
  · exact .unreadable h
  rcases status <;> simp only []
  · rcases hv : verified body x with e | o
    · refine .rejected h fun r hr => ?_
      rw [verified_ok hr] at hv
      cases hv
    obtain ⟨r, hr, rfl⟩ := verified_eq_ok_iff.1 hv
    rw [BasicResponse.statusOf_eq]
    rcases he : r.entry? x.certificate with _ | s
    · exact .noEntry h hr he
    · exact .entry h hr he
  · exact .malformedRequest h
  · exact .internalError h
  · exact .tryLater h
  · exact .signatureRequired h
  · exact .unauthorized h

/-- A response is interpreted as the table tells. -/
theorem interpret_eq_iff {bytes : Bytes} {x : Expectation} {o : Outcome} :
    interpret bytes x = o ↔ Tells bytes x o := by
  constructor
  · rintro rfl
    exact tells_interpret bytes x
  · intro h
    unfold interpret
    rcases h with h | h | h | h | h | h | ⟨h, hn⟩ | ⟨h, hr, he⟩ | ⟨h, hr, he⟩ <;> rw [h]
    · rename_i body
      rcases hv : verified body x with e | o
      · simp only [hv]
      · obtain ⟨r, hr, -⟩ := verified_eq_ok_iff.1 hv
        exact absurd hr (hn r)
    · simp only [verified_ok hr, BasicResponse.statusOf_eq, he]
      rfl
    · simp only [verified_ok hr, BasicResponse.statusOf_eq, he]
      rfl

end StatusResponse

/-- An encoded response about an encoded certificate, which can be read and whose issuer's can be
read, gives the outcome of the table.  What is asked of it is the certificate's own serial number
under the digests of its issuer's name and key, the issuer's key, and the nonce if one was sent. -/
theorem verifyResponse_eq_iff {certificate issuer : Bytes} {c i : Canonical.Certificate}
    {parsed : Certificate} (hc : Canonical.Certificate.decode? certificate = some c)
    (hi : Canonical.Certificate.decode? issuer = some i)
    (hp : Certificate.decode? issuer = some parsed) (response : Bytes) (nonce : Option Bytes)
    (o : Outcome) :
    (verifyResponse response certificate issuer nonce = o ↔
      StatusResponse.Tells response
        { certificate := {
            digestAlgorithm := CertId.sha1Id
            issuerName := Digest.sha1.hash i.subject.encode
            issuerKey := Digest.sha1.hash i.publicKey.key.data
            serial := c.serial }
          issuerKey := parsed.publicKey.encoding
          nonce } o)
    ∧ ∀ x, StatusResponse.interpret response x = o ↔ StatusResponse.Tells response x o := by
  refine ⟨?_, fun x => StatusResponse.interpret_eq_iff⟩
  simp only [verifyResponse, Expectation.ofEncoded?, CertId.ofEncoded?, hc, hi, hp,
    Option.bind_eq_bind, Option.bind_some, Option.pure_def]
  exact StatusResponse.interpret_eq_iff

end

/-- The certificate of an issuer. -/
def sampleIssuer : Bytes := [
    0x308201083081b3a003020102020101300d06092a864886f70d01010b0500300d310b300906035504,
    0x030c024341301e170d3235303130313030303030305a170d3335303130313030303030305a300d31,
    0x0b300906035504030c024341305c300d06092a864886f70d0101010500034b003048024100bccda3,
    0xad18fd5a5d3a9e402d75af77846d3b29e290cc50d7a2b5d534e046a05f10054fbedc21eee0bad8f5,
    0x98127b7c7abaf60db79d92cfe3d5c093ce3ca83d070203010001300d06092a864886f70d01010b05,
    0x00034100129672c826f4dd092f3db8a50e4795f1ecf35260af71941526002f903de1b834ad0edfda
  ].flatMap (Bytes.ofNat 40) ++ Bytes.ofNat 28
    0x1399b12abb3db6efce1d44afb1d3884a06a0397ed205eeed7e5d2308

/-- A certificate of that issuer. -/
def sampleCertificate : Bytes := [
    0x3082017a30820124a00302010202021001300d06092a864886f70d01010b0500300d310b30090603,
    0x5504030c024341301e170d3235303130313030303030305a170d3335303130313030303030305a30,
    0x0c310a300806035504030c0148305c300d06092a864886f70d0101010500034b0030480241009b7e,
    0x47f37709da228558e8315998ed5e8d1818af540bf9f4edd7ce67e2f2cd8e195a1dda9b7f3d3dd49f,
    0x912b8eeb0e48f4cd28179529d02be284032d37dfaef30203010001a36f306d3011060a2b06010401,
    0x82a672030104030c013130170603551d200410300e300c060a2b0601040182a6720201302406082b,
    0x0601050507010104183016301406082b060105050730018608687474703a2f2f6f30190603551d1f,
    0x04123010300ea00ca00a8608687474703a2f2f63300d06092a864886f70d01010b050003410037df,
    0xa75afb6e848f7fca67b87474ef4e540d9f74d1d4a598d70b2424a13311c70851528adf96fb1c19f3
  ].flatMap (Bytes.ofNat 40) ++ Bytes.ofNat 22 0xac599b811911ad16521b5e770e795220c81d0ffcf4e5

/-- What is asked about that certificate if no nonce is sent. -/
def sampleQuestion : Expectation :=
  (Expectation.ofEncoded? sampleCertificate sampleIssuer none).getD
    ⟨⟨CertId.sha1Id, [], [], 0⟩, [], none⟩

/-- A response about that certificate with a nonce. -/
def sampleAnswer : Bytes := [
    0x308201130a0100a082010c3082010806092b06010505073001010481fa3081f73081a2a216041461,
    0xc24a6d6f386a4dceb4adcb901021823d396b44180f32303235303630313030303030305a30523050,
    0x303b300906052b0e03021a05000414711d397671c9facf2242095925979a0698e46b11041461c24a,
    0x6d6f386a4dceb4adcb901021823d396b44020210018000180f32303235303630313030303030305a,
    0xa1233021301f06092b060105050730010204120410000102030405060708090a0b0c0d0e0f300d06,
    0x092a864886f70d01010b050003410021e973ea1af22c867592d39c1b140de4a896a31249b9ffbe6d
  ].flatMap (Bytes.ofNat 40) ++ Bytes.ofNat 39
    0x6e7b74251d1568046bf3feabed53b4b750d3d069be0e3864e2c29e472c2dfcd76dc40b5fed0819

theorem verifyResponse_eq_iff_of_sample :
    ∃ c i parsed, Canonical.Certificate.decode? sampleCertificate = some c
      ∧ Canonical.Certificate.decode? sampleIssuer = some i
      ∧ Certificate.decode? sampleIssuer = some parsed
      ∧ StatusResponse.Tells sampleAnswer
        { certificate := {
            digestAlgorithm := CertId.sha1Id
            issuerName := Digest.sha1.hash i.subject.encode
            issuerKey := Digest.sha1.hash i.publicKey.key.data
            serial := c.serial }
          issuerKey := parsed.publicKey.encoding
          nonce := some (StatusRequest.nonceValue
            (Bytes.ofNat 16 0x000102030405060708090a0b0c0d0e0f)) } .valid := by
  obtain ⟨c, hc⟩ : ∃ c, Canonical.Certificate.decode? sampleCertificate = some c :=
    Option.isSome_iff_exists.1 (by decide +kernel)
  obtain ⟨i, hi⟩ : ∃ i, Canonical.Certificate.decode? sampleIssuer = some i :=
    Option.isSome_iff_exists.1 (by decide +kernel)
  obtain ⟨parsed, hp⟩ : ∃ parsed, Certificate.decode? sampleIssuer = some parsed :=
    Option.isSome_iff_exists.1 (by decide +kernel)
  have hv : verifyResponse sampleAnswer sampleCertificate sampleIssuer
      (some (StatusRequest.nonceValue (Bytes.ofNat 16 0x000102030405060708090a0b0c0d0e0f)))
        = .valid := by
    decide +kernel
  exact ⟨c, i, parsed, hc, hi, hp, (verifyResponse_eq_iff hc hi hp _ _ _).1.1 hv⟩

end SignerTrust
