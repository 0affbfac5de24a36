import SignerTrust.Proofs.Authentic
import SignerTrust.Proofs.RequestSize

/-!
# Answers repeat the nonce that was sent

A responder that is sent a nonce gives a status only by a response that repeats it: the nonce is
the one that is read from the body of the request that was posted.  As a response holds one nonce,
it gives no status to two requests with different ones (`askResponder_repeatsNonce`).
-/

namespace SignerTrust

theorem Der.encode_injective {id : UInt8} {a b : Bytes} (hl : a.length = b.length)
    (h : encode id a = encode id b) : a = b := by
  unfold encode at h
  rw [hl] at h
  exact List.append_cancel_left h

namespace StatusResponse

variable [CryptoLibrary]

/-- A successful response gives an error of the server if it does not count. -/
theorem interpret_eq_serverError_or {bytes : Bytes} {body : Option (Canonical.Arcs × Bytes)}
    (h : decode? bytes = some ⟨.successful, body⟩) (x : Expectation) :
    interpret bytes x = .serverError ∨ ∃ r, Counts body x r := by
  have ht := tells_interpret bytes x
  generalize interpret bytes x = o at ht
  cases ht with
  | unreadable => exact .inl rfl
  | internalError => exact .inl rfl
  | tryLater => exact .inl rfl
  | rejected => exact .inl rfl
  | noEntry hd hr | entry hd hr =>
    cases h.symm.trans hd
    exact .inr ⟨_, hr⟩
  | malformedRequest hd | signatureRequired hd | unauthorized hd => cases h.symm.trans hd

/-- What settles the status of a certificate, or finds it unknown, is a response that counts. -/
theorem counts_of_interpret {bytes : Bytes} {x : Expectation}
    (h : interpret bytes x = .valid ∨ interpret bytes x = .revoked
      ∨ interpret bytes x = .unknown) :
    ∃ body r, decode? bytes = some ⟨.successful, body⟩ ∧ Counts body x r := by
  have ht := tells_interpret bytes x
  generalize interpret bytes x = o at h ht
  cases ht with
  | noEntry hd hr | entry hd hr => exact ⟨_, _, hd, hr⟩
  | _ => simp at h

end StatusResponse

namespace StatusRequest

variable {settings : Settings} {client : ServerTrust} {random certificate issuer : Bytes}
  {url : String}

theorem sentNonce_of (hn : settings.responders.sendNonce = true) :
    sentNonce settings random = some random := by
  rw [sentNonce, if_pos hn]

/-- Whether the reply to the one request of a run brought a body. -/
def Brought (limit : UInt64) (es : List Exchange) (body : Bytes) : Prop :=
  ∃ client request reply, es = [⟨.fetch client request, .ok reply⟩]
    ∧ HttpReply.received? limit reply = some body

section

variable [CryptoLibrary]

theorem askResponder_yields_of {x : Expectation} {uri : Uri}
    (hx : Expectation.ofEncoded? certificate issuer ((sentNonce settings random).map nonceValue)
      = some x) (hu : Uri.parse? url = some uri) {reply : Except HttpError HttpReply}
    {result : Except ResponderError Outcome} (hr : ofReply settings url x reply = some result) :
    (askResponder settings client random certificate issuer url).Yields
      [⟨.fetch client ((make x.certificate (sentNonce settings random)).post uri), reply⟩]
      result := by
  rw [askResponder_eq, hx]
  simp only [hu]
  exact Inquiry.yields_fetch_bind.2 ⟨reply, [], rfl, Inquiry.yields_ofOption.2 ⟨rfl, hr⟩⟩

/-- A run with a nonce posts one request, of which a responder reads that nonce, or it brings
nothing but a failure. -/
theorem askResponder_sends (hn : settings.responders.sendNonce = true)
    (hr : random.length = nonceLength) (hl : certificate.length < 2 ^ 63) {es : List Exchange}
    {result : Except ResponderError Outcome}
    (h : (askResponder settings client random certificate issuer url).Yields es result) :
    es = [] ∧ (∀ o, result = .ok o → o = .corrupt)
    ∨ ∃ x uri body q reply, x.nonce = some (nonceValue random)
      ∧ es = [⟨.fetch client ⟨.post, uri, headers, body⟩, reply⟩]
      ∧ ReceivedRequest.decode? body = some q ∧ q.nonce? = some (nonceValue random)
      ∧ ofReply settings url x reply = some result := by
  rcases askResponder_yields h with hnone | ⟨x, uri, reply, hx, -, hes, hres⟩
  · exact .inl hnone
  obtain ⟨c, i, parsed, hc, -, -, rfl⟩ := Expectation.ofEncoded?_eq_some hx
  have hread := Canonical.Reader.decode?_eq_some.2 ⟨[], @run_read_sent settings _ _ _ i hc hl hr⟩
  -- the type of the reply mentions the request, so the nonce is rewritten only apart from it
  exact .inr ⟨_, uri, _, _, reply, by rw [sentNonce_of hn]; rfl, hes, hread, by
    simp [ReceivedRequest.nonce?, sentNonce_of hn], hres⟩

theorem ofReply_of_received {settings : Settings} {url : String} {x : Expectation}
    {reply : HttpReply} {answer : Bytes}
    (h : HttpReply.received? settings.network.maxResponseSize reply = some answer) :
    ofReply settings url x (.ok reply) = some (.ok (StatusResponse.interpret answer x)) := by
  obtain ⟨hs, hread, -⟩ := (@HttpReply.received?_eq_some_iff _ _ url _).1 h
  simp only [ofReply, hs, Bool.not_true, Bool.false_eq_true, if_false, hread, Option.map_some]

/-- A run with a nonce to which a successful response came gives an error of the server, or the
response repeats the nonce. -/
theorem serverError_or_nonce {settings : Settings} {client : ServerTrust}
    {random certificate issuer answer : Bytes} {url : String}
    (hn : settings.responders.sendNonce = true)
    {es : List Exchange} {result : Except ResponderError Outcome}
    (h : (askResponder settings client random certificate issuer url).Yields es result)
    (hb : Brought settings.network.maxResponseSize es answer)
    {body : Option (Canonical.Arcs × Bytes)}
    (hd : StatusResponse.decode? answer = some ⟨.successful, body⟩) :
    result = .ok .serverError ∨ ∃ bytes r, body = some (BasicResponse.kind, bytes)
      ∧ BasicResponse.decode? bytes = some r ∧ r.nonce? = some (nonceValue random) := by
  obtain ⟨client', request, reply, rfl, hrec⟩ := hb
  rcases askResponder_yields h with ⟨hes, -⟩ | ⟨x, uri, reply', hx, -, hes, hr⟩
  · cases hes
  cases hes
  rw [ofReply_of_received hrec] at hr
  cases hr
  rcases StatusResponse.interpret_eq_serverError_or hd x with he | ⟨r, bytes, _, hk, hr, -, ha⟩
  · exact .inl (by rw [he])
  · rw [sentNonce_of hn] at hx
    obtain ⟨c, i, parsed, -, -, -, rfl⟩ := Expectation.ofEncoded?_eq_some hx
    exact .inr ⟨bytes, r, hk, hr, ha.nonce _ rfl⟩

/-- With nonces sent, a run about a certificate that fits into memory gives a status, or finds it
unknown, only by a response that repeats the nonce which a responder reads in the body of the
request that was posted.  Two runs with different nonces to which one successful response comes do
not both take it: one of them gives an error of the server. -/
theorem askResponder_repeatsNonce {settings : Settings} {random certificate : Bytes}
    (hn : settings.responders.sendNonce = true) (hr : random.length = nonceLength)
    (hl : certificate.length < 2 ^ 63) :
    (∀ {client issuer url es o},
      (askResponder settings client random certificate issuer url).Yields es (.ok o) →
      o = .valid ∨ o = .revoked ∨ o = .unknown →
      ∃ uri body q reply answer bytes r value,
        es = [⟨.fetch client ⟨.post, uri, headers, body⟩, .ok reply⟩]
        ∧ ReceivedRequest.decode? body = some q ∧ q.nonce? = some value
        ∧ HttpReply.received? settings.network.maxResponseSize reply = some answer
        ∧ StatusResponse.decode? answer = some ⟨.successful, some (BasicResponse.kind, bytes)⟩
        ∧ BasicResponse.decode? bytes = some r ∧ r.nonce? = some value)
    ∧ ∀ {settings' : Settings} {random' : Bytes}, settings'.responders.sendNonce = true →
      random'.length = nonceLength → random' ≠ random →
      ∀ {client client' issuer issuer' url url' es es' result result' answer body},
        (askResponder settings client random certificate issuer url).Yields es result →
        (askResponder settings' client' random' certificate issuer' url').Yields es' result' →
        Brought settings.network.maxResponseSize es answer →
        Brought settings'.network.maxResponseSize es' answer →
        StatusResponse.decode? answer = some ⟨.successful, body⟩ →
        result = .ok .serverError ∨ result' = .ok .serverError := by
  refine ⟨fun {client issuer url es o} h ho => ?_, fun {settings' random'} hn' hr' hne => ?_⟩
  · rcases askResponder_sends hn hr hl h with ⟨-, hc⟩ | ⟨x, uri, body, q, reply, hx, rfl, hq, hv, h⟩
    · rw [hc o rfl] at ho
      simp at ho
    obtain ⟨reply, answer, rfl, hs, hread, rfl⟩ := ofReply_eq_ok h
    obtain ⟨_, r, hd, bytes, _, rfl, hb, -, ha⟩ := StatusResponse.counts_of_interpret ho
    have hanswer : answer ≠ [] := by
      rintro rfl
      cases hd
    exact ⟨uri, body, q, reply, answer, bytes, r, _, rfl, hq, hv,
      HttpReply.received?_eq_some_iff.2 ⟨hs, hread, hanswer⟩, hd, hb, ha.nonce _ hx⟩
  · intro client client' issuer issuer' url url' es es' result result' answer body h h' hb hb' hd
    rcases serverError_or_nonce hn h hb hd with he | ⟨bytes, r, hk, hr₁, hv⟩
    · exact .inl he
    rcases serverError_or_nonce hn' h' hb' hd with he | ⟨bytes', r', hk', hr₂, hv'⟩
    · exact .inr he
    cases hk.symm.trans hk'
    cases hr₁.symm.trans hr₂
    have hvalue : nonceValue random' = nonceValue random := Option.some.inj (hv'.symm.trans hv)
    exact absurd (Der.encode_injective (hr'.trans hr.symm) hvalue) hne

end

/-- The sample answer is taken by the run that sent its nonce, which a responder reads in the body
of the request, and not by a run that sent another. -/
theorem askResponder_repeatsNonce_of_sample :
    ∃ es es' uri body q reply value,
      (askResponder {} .checked Validator.sampleRandom sampleCertificate sampleIssuer
        "http://o").Yields es (.ok .valid)
      ∧ es = [⟨.fetch .checked ⟨.post, uri, headers, body⟩, .ok reply⟩]
      ∧ ReceivedRequest.decode? body = some q ∧ q.nonce? = some value
      ∧ Brought ({} : Settings).network.maxResponseSize es sampleAnswer
      ∧ Brought ({} : Settings).network.maxResponseSize es' sampleAnswer
      ∧ (askResponder {} .checked (Bytes.ofNat 16 1) sampleCertificate sampleIssuer
        "http://o").Yields es' (.ok .serverError) := by
  have hlen : sampleCertificate.length < 2 ^ 63 := by decide +kernel
  obtain ⟨h₁, h₂⟩ := @askResponder_repeatsNonce _ {} Validator.sampleRandom sampleCertificate rfl
    rfl hlen
  obtain ⟨uri, hu⟩ : ∃ uri, Uri.parse? "http://o" = some uri :=
    Option.isSome_iff_exists.1 (by decide +kernel)
  have hvalid : (Expectation.ofEncoded? sampleCertificate sampleIssuer
      (some (nonceValue Validator.sampleRandom))).map (StatusResponse.interpret sampleAnswer)
      = some .valid := by decide +kernel
  obtain ⟨x, hx, hv⟩ := Option.map_eq_some_iff.1 hvalid
  obtain ⟨x', hx'⟩ : ∃ x', Expectation.ofEncoded? sampleCertificate sampleIssuer
      (some (nonceValue (Bytes.ofNat 16 1))) = some x' :=
    Option.isSome_iff_exists.1 (by decide +kernel)
  have hrec : HttpReply.received? ({} : Settings).network.maxResponseSize
      ⟨200, ⟨[sampleAnswer], none⟩⟩ = some sampleAnswer := by decide +kernel
  have hr : ∀ x, ofReply {} "http://o" x (.ok ⟨200, ⟨[sampleAnswer], none⟩⟩)
      = some (.ok (StatusResponse.interpret sampleAnswer x)) := fun x => ofReply_of_received hrec
  have hy := @askResponder_yields_of {} .checked Validator.sampleRandom _ _ _ _ x uri hx hu _ _
    (hr x)
  have hy' := @askResponder_yields_of {} .checked (Bytes.ofNat 16 1) _ _ _ _ x' uri hx' hu _ _
    (hr x')
  rw [hv] at hy
  have hb : ∀ client request,
      Brought ({} : Settings).network.maxResponseSize
        [⟨.fetch client request, .ok ⟨200, ⟨[sampleAnswer], none⟩⟩⟩] sampleAnswer :=
    fun client request => ⟨client, request, _, rfl, hrec⟩
  obtain ⟨uri', body, q, reply, answer, bytes, r, value, hes, hq, hn, -, -, -, -⟩ :=
    h₁ hy (.inl rfl)
  have hsuccess : (StatusResponse.decode? sampleAnswer).map (·.status) = some .successful := by
    decide +kernel
  obtain ⟨⟨_, inner⟩, hd, rfl⟩ := Option.map_eq_some_iff.1 hsuccess
  have hother := h₂ rfl rfl (by decide +kernel) hy hy' (hb _ _) (hb _ _) hd
  rw [hother.resolve_left nofun] at hy'
  exact ⟨_, _, uri', body, q, reply, value, hy, hes, hq, hn, hb _ _, hb _ _, hy'⟩

end StatusRequest

end SignerTrust
