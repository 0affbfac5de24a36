import SignerTrust.Proofs.Body
import SignerTrust.Proofs.StatusTable
import SignerTrust.Proofs.Transcript
import SignerTrust.Status.Check
import SignerTrust.TrustAnchor.Basic

/-!
# What a responder's answer rests on

A responder is asked by at most one request (`check_yields`), and an outcome that settles the status
of the certificate is read from an entry of a response that counts (`interpret_definitive`), which
the reply to that request brought.
-/

namespace SignerTrust

theorem Outcome.isDefinitive_iff {o : Outcome} :
    o.isDefinitive = true ↔ o = .valid ∨ o = .revoked := by
  simp [isDefinitive]

/-- The name of a certificate in requests and responses: digests of its issuer's name and key, and
its own serial number.  The name is digested as it was read and is written again, which need not be
as it stands in the issuer's certificate. -/
def CertId.about (c issuer : Canonical.Certificate) : CertId where
  digestAlgorithm := sha1Id
  issuerName := Digest.sha1.hash issuer.subject.encode
  issuerKey := Digest.sha1.hash issuer.publicKey.key.data
  serial := c.serial

theorem CertId.ofEncoded?_of_decode {certificate issuer : Bytes} {c i : Canonical.Certificate}
    (hc : Canonical.Certificate.decode? certificate = some c)
    (hi : Canonical.Certificate.decode? issuer = some i) :
    ofEncoded? certificate issuer = some (.about c i) := by
  simp only [ofEncoded?, hc, hi]
  rfl

theorem Expectation.ofEncoded?_eq_some {certificate issuer : Bytes} {nonce : Option Bytes}
    {x : Expectation} (h : ofEncoded? certificate issuer nonce = some x) :
    ∃ c i parsed, Canonical.Certificate.decode? certificate = some c
      ∧ Canonical.Certificate.decode? issuer = some i ∧ Certificate.decode? issuer = some parsed
      ∧ x = ⟨.about c i, parsed.publicKey.encoding, nonce⟩ := by
  obtain ⟨id, hid, h⟩ := Option.bind_eq_some_iff.1 h
  obtain ⟨parsed, hp, h⟩ := Option.bind_eq_some_iff.1 h
  obtain ⟨c, hc, hid⟩ := Option.bind_eq_some_iff.1 hid
  obtain ⟨i, hi, hid⟩ := Option.bind_eq_some_iff.1 hid
  cases hid
  cases h
  exact ⟨c, i, parsed, hc, hi, hp, rfl⟩

variable [CryptoLibrary]

namespace BasicResponse

/-- Whether a key may sign responses for an issuer: it is the issuer's, or that of a certificate
sent along, which names the responder, is signed with the issuer's key, and is meant for signing
responses. -/
def MaySign (r : BasicResponse) (issuerKey key : Bytes) : Prop :=
  key = issuerKey ∨ ∃ c ∈ r.certificates.getD [], c.isOf r.data.responder = true
    ∧ c.IsIssuedBy issuerKey ∧ c.isStatusSigner = true ∧ key = c.publicKey.encode

theorem TrustsResponder.maySign {r : BasicResponse} {issuerKey : Bytes}
    (h : r.TrustsResponder issuerKey) : r.MaySign issuerKey (r.responderKey issuerKey) := by
  unfold responderKey
  rcases hr : r.responder? with _ | c
  · exact .inl rfl
  rcases h c hr with hk | ⟨hi, hs⟩
  · exact .inl hk
  · have hm := List.mem_of_find?_eq_some hr
    have ho := List.find?_some hr
    exact .inr ⟨c, hm, ho, hi, hs, rfl⟩

end BasicResponse

theorem StatusResponse.interpret_definitive {bytes : Bytes} {x : Expectation}
    (h : (interpret bytes x).isDefinitive = true) :
    ∃ body r s, decode? bytes = some ⟨.successful, body⟩ ∧ Counts body x r
      ∧ r.entry? x.certificate = some s ∧ interpret bytes x = s.status.outcome := by
  have ht := tells_interpret bytes x
  generalize interpret bytes x = o at h ht
  cases ht with
  | entry hd hr he => exact ⟨_, _, _, hd, hr, he, rfl⟩
  | _ => cases h

namespace StatusRequest

variable {settings : Settings} {client : ServerTrust} {random certificate issuer : Bytes}

/-- The random bytes that are sent as a nonce, if any are. -/
def sentNonce (settings : Settings) (random : Bytes) : Option Bytes :=
  if settings.responders.sendNonce then some random else none

theorem ofReply_eq_ok {url : String} {x : Expectation} {reply : Except HttpError HttpReply}
    {o : Outcome} (h : ofReply settings url x reply = some (.ok o)) :
    ∃ r body, reply = .ok r ∧ r.isSuccess = true
      ∧ r.body.read settings.network.maxResponseSize url = some (.ok body)
      ∧ o = StatusResponse.interpret body x := by
  rcases reply with e | r
  · cases h
  simp only [ofReply] at h
  split_ifs at h with hs
  · cases h
  obtain ⟨_ | body, hb, h⟩ := Option.map_eq_some_iff.1 h
  · cases h
  · cases h
    exact ⟨r, body, rfl, by simpa using hs, hb, rfl⟩

/-- Reading a reply breaks off only where there is no bound for reading its body. -/
theorem ofReply_eq_none_iff {url : String} {x : Expectation} {reply : Except HttpError HttpReply} :
    ofReply settings url x reply = none ↔
      settings.network.maxResponseSize = noLimit ∧ ∃ r, reply = .ok r ∧ r.isSuccess = true := by
  rcases reply with e | r
  · simp [ofReply]
  cases hs : r.isSuccess <;> simp [ofReply, hs, BodyStream.read_eq_none_iff]

theorem askResponder_eq (url : String) :
    askResponder settings client random certificate issuer url =
      match Expectation.ofEncoded? certificate issuer
        ((sentNonce settings random).map nonceValue) with
      | none => pure (.ok .corrupt)
      | some x =>
        match Uri.parse? url with
        | none => pure (.error (.ofHttp url .invalidRequest))
        | some uri =>
          Inquiry.fetch client ((make x.certificate (sentNonce settings random)).post uri) >>=
            fun reply => Inquiry.ofOption (ofReply settings url x reply) := rfl

theorem askResponder_yields {url : String} {es : List Exchange}
    {result : Except ResponderError Outcome}
    (h : (askResponder settings client random certificate issuer url).Yields es result) :
    es = [] ∧ (∀ o, result = .ok o → o = .corrupt)
    ∨ ∃ x uri reply, Expectation.ofEncoded? certificate issuer
          ((sentNonce settings random).map nonceValue) = some x
      ∧ Uri.parse? url = some uri
      ∧ es = [⟨.fetch client ((make x.certificate (sentNonce settings random)).post uri), reply⟩]
      ∧ ofReply settings url x reply = some result := by
  rw [askResponder_eq] at h
  split at h
  · obtain ⟨rfl, rfl⟩ := Inquiry.yields_pure.1 h
    exact .inl ⟨rfl, fun o ho => by cases ho; rfl⟩
  rename_i x hx
  split at h
  · obtain ⟨rfl, rfl⟩ := Inquiry.yields_pure.1 h
    exact .inl ⟨rfl, fun o ho => by cases ho⟩
  rename_i uri hu
  obtain ⟨reply, _, rfl, hread⟩ := Inquiry.yields_fetch_bind.1 h
  obtain ⟨rfl, hr⟩ := Inquiry.yields_ofOption.1 hread
  exact .inr ⟨x, uri, reply, hx, hu, rfl, hr⟩

/-- Asking breaks off only with the greatest limit, at a reply that would be read. -/
theorem askResponder_breaksOff {url : String} {es : List Exchange}
    (h : (askResponder settings client random certificate issuer url).BreaksOff es) :
    settings.network.maxResponseSize = noLimit ∧ ∃ x uri r,
      Expectation.ofEncoded? certificate issuer ((sentNonce settings random).map nonceValue)
        = some x
      ∧ Uri.parse? url = some uri ∧ r.isSuccess = true
      ∧ es = [⟨.fetch client ((make x.certificate (sentNonce settings random)).post uri),
        .ok r⟩] := by
  rw [askResponder_eq] at h
  split at h
  · exact absurd h Inquiry.not_breaksOff_pure
  rename_i x hx
  split at h
  · exact absurd h Inquiry.not_breaksOff_pure
  rename_i uri hu
  obtain ⟨reply, _, rfl, hread⟩ := Inquiry.breaksOff_fetch_bind.1 h
  obtain ⟨rfl, hr⟩ := Inquiry.breaksOff_ofOption.1 hread
  obtain ⟨hl, r, rfl, hs⟩ := ofReply_eq_none_iff.1 hr
  exact ⟨hl, x, uri, r, hx, hu, hs, rfl⟩

/-- A check asks nothing and settles nothing, or posts one request and reads its reply. -/
theorem check_yields {es : List Exchange} {result : Except ResponderError Outcome}
    (h : (check settings client random certificate issuer).Yields es result) :
    es = [] ∧ (∀ o, result = .ok o → o = .corrupt)
    ∨ ∃ x url uri reply, Expectation.ofEncoded? certificate issuer
          ((sentNonce settings random).map nonceValue) = some x
      ∧ Uri.parse? url = some uri
      ∧ es = [⟨.fetch client ((make x.certificate (sentNonce settings random)).post uri), reply⟩]
      ∧ ofReply settings url x reply = some result := by
  unfold check at h
  split at h
  · obtain ⟨rfl, rfl⟩ := Inquiry.yields_pure.1 h
    exact .inl ⟨rfl, fun o ho => by cases ho; rfl⟩
  split at h
  · obtain ⟨rfl, rfl⟩ := Inquiry.yields_pure.1 h
    exact .inl ⟨rfl, fun o ho => by cases ho⟩
  rename_i url hurl
  rcases askResponder_yields h with hn | ⟨x, uri, reply, hx, hu, hes, hr⟩
  · exact .inl hn
  · exact .inr ⟨x, url, uri, reply, hx, hu, hes, hr⟩

/-- A check breaks off only while the responder is asked. -/
theorem check_breaksOff {es : List Exchange}
    (h : (check settings client random certificate issuer).BreaksOff es) :
    ∃ c url, Certificate.decode? certificate = some c ∧ responder? settings c = some url
      ∧ (askResponder settings client random certificate issuer url).BreaksOff es := by
  unfold check at h
  split at h
  · exact absurd h Inquiry.not_breaksOff_pure
  rename_i c hc
  split at h
  · exact absurd h Inquiry.not_breaksOff_pure
  · rename_i url hurl
    exact ⟨c, url, hc, hurl, h⟩

theorem not_check_breaksOff (hm : settings.network.maxResponseSize ≠ noLimit)
    {es : List Exchange} : ¬ (check settings client random certificate issuer).BreaksOff es := by
  intro h
  obtain ⟨c, url, -, -, h⟩ := check_breaksOff h
  exact hm (askResponder_breaksOff h).1

/-- What an outcome about a certificate rests on if a responder settled it: the reply to a request
for the certificate brought a successful response, signed with a key that may sign for the anchor;
it repeats the nonce if one was sent, and its entry for the certificate gives the outcome. -/
def RestsOnResponse (limit : UInt64) (nonce : Option Bytes) (certificate : Bytes)
    (sub : TrustAnchor) (es : List Exchange) (o : Outcome) : Prop :=
  ∃ c i, Canonical.Certificate.decode? certificate = some c
    ∧ Canonical.Certificate.decode? sub.encoding = some i
    ∧ ∃ client uri reply body encoding r signed key s,
      ⟨.fetch client ((make (.about c i) nonce).post uri), .ok reply⟩ ∈ es
      ∧ HttpReply.received? limit reply = some body
      ∧ StatusResponse.decode? body = some ⟨.successful, some (BasicResponse.kind, encoding)⟩
      ∧ BasicResponse.decode? encoding = some r ∧ BasicResponse.signedPart? encoding = some signed
      ∧ r.MaySign sub.publicKey key
      ∧ Signature.verify (Canonical.dotted r.algorithm.algorithm) r.signature.data signed key
        = .ok ()
      ∧ (∀ n, nonce = some n → r.nonce? = some (nonceValue n))
      ∧ r.entry? (.about c i) = some s ∧ s.status.outcome = o

/-- A check by an anchor that settles the status rests on the response to its request. -/
theorem check_restsOnResponse {sub : TrustAnchor} {parsed : Certificate} {es : List Exchange}
    {o : Outcome} (hp : Certificate.decode? sub.encoding = some parsed)
    (hk : sub.publicKey = parsed.publicKey.encoding) (ho : o.isDefinitive = true)
    (h : (check settings client random certificate sub.encoding).Yields es (.ok o)) :
    RestsOnResponse settings.network.maxResponseSize (sentNonce settings random) certificate sub
      es o := by
  obtain ⟨-, hn⟩ | ⟨x, url, uri, reply, hx, -, rfl, hr⟩ := check_yields h
  · rw [hn o rfl] at ho
    cases ho
  obtain ⟨r, body, rfl, hsucc, hread, rfl⟩ := ofReply_eq_ok hr
  obtain ⟨c, i, parsed', hc, hi, hp', rfl⟩ := Expectation.ofEncoded?_eq_some hx
  obtain rfl : parsed = parsed' := Option.some.inj (hp.symm.trans hp')
  obtain ⟨inner, b, s, hd, ⟨encoding, signed, rfl, hb, hsp, ha⟩, he, hout⟩ :=
    StatusResponse.interpret_definitive ho
  have hne : body ≠ [] := by
    rintro rfl
    cases hd
  rw [← hk] at ha
  refine ⟨c, i, hc, hi, client, uri, r, body, encoding, b, signed, _, s, List.mem_singleton_self _,
    HttpReply.received?_eq_some_iff.2 ⟨hsucc, hread, hne⟩, hd, hb, hsp, ha.responder.maySign,
    ha.signature, fun n hn => ?_, he, hout.symm⟩
  exact ha.nonce _ (by rw [hn]; rfl)

end StatusRequest

end SignerTrust
