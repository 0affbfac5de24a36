import Mathlib.Tactic.Common
import SignerTrust.Status.Interpretation

/-!
# Which responses count

`Accepted` lists what makes a signed response count: the responder is the issuer or certified by it,
the signature holds under the responder's key, and the nonce is repeated.  The checks succeed
exactly on these (`verified_eq_ok_iff`), and then the outcome is the status of the certificate's
first entry (`statusOf_eq`).
-/

namespace SignerTrust

/-- The outcome that a status stands for. -/
def CertStatus.outcome : CertStatus → Outcome
  | good => .valid
  | revoked => .revoked
  | unknown => .unknown

/-- Whether the library reads a certificate, as it is written, and a key, and finds the certificate
signed with the key. -/
def Canonical.Certificate.IsIssuedBy [CryptoLibrary] (c : Canonical.Certificate) (key : Bytes) :
    Prop :=
  ∃ certificate issuer, CryptoLibrary.readCertificate? c.encode = some certificate
    ∧ CryptoLibrary.readPublicKey? key = some issuer
    ∧ CryptoLibrary.isSignedBy? certificate issuer = some true

theorem Canonical.Certificate.issuedBy?_eq_true_iff [CryptoLibrary] {c : Canonical.Certificate}
    {key : Bytes} : c.issuedBy? key = some true ↔ c.IsIssuedBy key := by
  simp [issuedBy?, IsIssuedBy, Option.bind_eq_some_iff]

namespace BasicResponse

/-- The nonce that a response repeats: the value of its first nonce extension. -/
def nonce? (r : BasicResponse) : Option Bytes :=
  ((r.data.extensions.getD []).find? fun e => e.name = StatusRequest.nonceName).map (·.value)

/-- The first entry for a certificate. -/
def entry? (r : BasicResponse) (id : CertId) : Option SingleResponse :=
  r.data.responses.find? fun s => s.certificate.sameCertificate id

/-- The key of the responder: that of the first certificate that names it, or else the
issuer's. -/
def responderKey (r : BasicResponse) (issuerKey : Bytes) : Bytes :=
  match r.responder? with
  | none => issuerKey
  | some c => c.publicKey.encode

section

variable [CryptoLibrary]

/-- Whether the first certificate that names the responder, if there is one, has the issuer's key,
or is signed with it and meant for signing responses. -/
def TrustsResponder (r : BasicResponse) (issuerKey : Bytes) : Prop :=
  ∀ c, r.responder? = some c →
    c.publicKey.encode = issuerKey ∨ c.IsIssuedBy issuerKey ∧ c.isStatusSigner = true

/-- What makes a response count, of which `signed` are the bytes of the signed part. -/
structure Accepted (r : BasicResponse) (signed : Bytes) (x : Expectation) : Prop where
  responder : r.TrustsResponder x.issuerKey
  signature : Signature.verify (Canonical.dotted r.algorithm.algorithm) r.signature.data signed
    (r.responderKey x.issuerKey) = .ok ()
  nonce : ∀ value, x.nonce = some value → r.nonce? = some value

theorem signerKey_eq_ok_iff {r : BasicResponse} {issuerKey key : Bytes} :
    r.signerKey issuerKey = .ok key ↔
      r.TrustsResponder issuerKey ∧ key = r.responderKey issuerKey := by
  unfold signerKey TrustsResponder responderKey
  rcases r.responder? with _ | c
  · simp [@eq_comm _ key]
  simp only [Option.some.injEq, forall_eq', ← Canonical.Certificate.issuedBy?_eq_true_iff]
  by_cases hk : c.publicKey.encode = issuerKey
  · simp [hk, @eq_comm _ key]
  rcases c.issuedBy? issuerKey with _ | _ | _ <;> cases c.isStatusSigner <;>
    simp [hk, @eq_comm _ key]

end

theorem checkNonce_eq_ok_iff {r : BasicResponse} {expected : Option Bytes} :
    r.checkNonce expected = .ok () ↔ ∀ value, expected = some value → r.nonce? = some value := by
  rcases expected with _ | nonce
  · simp [checkNonce]
  simp only [checkNonce, nonce?, Option.some.injEq, forall_eq']
  split
  · rename_i hf
    rw [hf]
    simp
  · rename_i e hf
    rw [hf]
    simp only [Option.map_some, Option.some.injEq]
    split_ifs with h <;> simp [h]

theorem statusOf_eq (r : BasicResponse) (id : CertId) :
    r.statusOf id = ((r.entry? id).map (·.status.outcome)).getD .unknown := by
  unfold statusOf entry?
  split
  · rename_i hf
    rw [hf]
    rfl
  · rename_i s hf
    rw [hf]
    rcases h : s.status <;> simp [h, CertStatus.outcome]

end BasicResponse

namespace StatusResponse

variable [CryptoLibrary]

/-- Whether the body of a successful response counts: signed data of the basic kind, which are
accepted. -/
def Counts (body : Option (Canonical.Arcs × Bytes)) (x : Expectation) (r : BasicResponse) : Prop :=
  ∃ bytes signed, body = some (BasicResponse.kind, bytes) ∧ BasicResponse.decode? bytes = some r
    ∧ BasicResponse.signedPart? bytes = some signed ∧ r.Accepted signed x

/-- The checks succeed on what counts, and then the outcome is the status that it gives. -/
theorem verified_eq_ok_iff {body : Option (Canonical.Arcs × Bytes)} {x : Expectation}
    {o : Outcome} :
    verified body x = .ok o ↔ ∃ r, Counts body x r ∧ o = r.statusOf x.certificate := by
  constructor
  · intro h
    unfold verified at h
    rcases body with _ | ⟨kind, bytes⟩
    · cases h
    simp only [ne_eq, ite_not] at h
    split at h
    swap
    · cases h
    rename_i hk
    subst hk
    split at h
    swap
    · cases h
    rename_i r signed hd hs
    rcases hkey : r.signerKey x.issuerKey with e | key <;> rw [hkey] at h
    · cases h
    rcases hv : Signature.verify (Canonical.dotted r.algorithm.algorithm) r.signature.data signed
      key with e | _
    · simp only [bind, Except.bind, hv] at h
      cases h
    rcases hn : r.checkNonce x.nonce with e | _
    · simp only [bind, Except.bind, hv, hn] at h
      cases h
    simp only [bind, Except.bind, hv, hn] at h
    cases h
    obtain ⟨hr, rfl⟩ := BasicResponse.signerKey_eq_ok_iff.1 hkey
    have hn := BasicResponse.checkNonce_eq_ok_iff.1 hn
    exact ⟨r, ⟨bytes, signed, rfl, hd, hs, ⟨hr, hv, hn⟩⟩, rfl⟩
  · rintro ⟨r, ⟨bytes, signed, rfl, hd, hs, ha⟩, rfl⟩
    have hkey := BasicResponse.signerKey_eq_ok_iff.2 ⟨ha.responder, rfl⟩
    have hnonce := BasicResponse.checkNonce_eq_ok_iff.2 ha.nonce
    simp only [verified, ne_eq, not_true_eq_false, if_false, hd, hs, hkey, bind, Except.bind,
      ha.signature, hnonce]
    rfl

end StatusResponse

end SignerTrust
