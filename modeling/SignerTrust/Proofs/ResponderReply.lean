import SignerTrust.Proofs.Authentic
import SignerTrust.Proofs.RequestSize

/-!
# What the reply of a responder brings

A responder is asked by one request, and `Delivers` is the table of what the reply to it brings: one
row for each way in which it may fail or succeed.  A time limit may be reached before there is a
reply, which clients tell in two ways, or within its body; all three are one error.  A body that
comes in full is judged as one that was received elsewhere.  The result of a run is the row of the
reply that it got (`run_askResponder_iff`).  With the greatest limit there is no row for a
successful reply, at which the run breaks off.
-/

namespace SignerTrust

theorem HttpReply.isSuccess_iff {r : HttpReply} :
    r.isSuccess = true ↔ 200 ≤ r.status ∧ r.status < 300 := by
  simp [isSuccess]

theorem Expectation.ofEncoded?_of_decode {certificate issuer : Bytes}
    {c i : Canonical.Certificate} {parsed : Certificate}
    (hc : Canonical.Certificate.decode? certificate = some c)
    (hi : Canonical.Certificate.decode? issuer = some i)
    (hp : Certificate.decode? issuer = some parsed) (nonce : Option Bytes) :
    ofEncoded? certificate issuer nonce
      = some ⟨.about c i, parsed.publicKey.encoding, nonce⟩ := by
  simp [ofEncoded?, CertId.ofEncoded?_of_decode hc hi, hp]

theorem Inquiry.run_fetch_ofOption {α σ : Type} (servers : (q : Question) → σ → q.Answer × σ)
    {client : ServerTrust} {request : HttpRequest} (f : Except HttpError HttpReply → Option α)
    (s : σ) :
    (Inquiry.fetch client request >>= fun reply => Inquiry.ofOption (f reply)).run servers s
      = (f (servers (.fetch client request) s).1, [.fetch client request],
        (servers (.fetch client request) s).2) := by
  have hr : ∀ (o : Option α) s, (Inquiry.ofOption o).run servers s = (o, [], s) := by
    intro o s
    cases o <;> rfl
  have hs : ∀ answer s, (Inquiry.done answer >>= fun reply => Inquiry.ofOption (f reply)).run
      servers s = (f answer, [], s) := fun answer => hr (f answer)
  exact congrArg (fun r => (r.1, Question.fetch client request :: r.2.1, r.2.2)) (hs _ _)

namespace StatusRequest

section

variable [CryptoLibrary]

/-- What the reply to a request brings: the outcome of its body, or why there is none. -/
inductive Delivers (limit : UInt64) (url : String) (certificate issuer : Bytes)
    (nonce : Option Bytes) : Except HttpError HttpReply → Except ResponderError Outcome → Prop
  | unanswered (uri : String) :
    Delivers limit url certificate issuer nonce (.error (.timeout uri)) (.error (.timeout url))
  | cutOff (text : String) :
    Delivers limit url certificate issuer nonce (.error (.io .timedOut text))
      (.error (.timeout url))
  | failed {e} (ht : ∀ uri, e ≠ .timeout uri) (hi : ∀ text, e ≠ .io .timedOut text) :
    Delivers limit url certificate issuer nonce (.error e) (.error (.transport url e))
  | refused {r} (hs : ¬ (200 ≤ r.status ∧ r.status < 300)) :
    Delivers limit url certificate issuer nonce (.ok r) (.error (.status url r.status))
  | bodyTooLong {r} (hs : 200 ≤ r.status ∧ r.status < 300)
      (hl : limit.toNat < r.body.bytes.length) :
    Delivers limit url certificate issuer nonce (.ok r)
      (.error (.transport url (.tooLarge url limit)))
  | bodyCutOff {r text} (hs : 200 ≤ r.status ∧ r.status < 300)
      (hl : r.body.bytes.length ≤ limit.toNat) (hf : r.body.fault = some (.timedOut, text)) :
    Delivers limit url certificate issuer nonce (.ok r) (.error (.timeout url))
  | bodyFailed {r fault text} (hs : 200 ≤ r.status ∧ r.status < 300)
      (hl : r.body.bytes.length ≤ limit.toNat) (hf : r.body.fault = some (fault, text))
      (hn : fault ≠ .timedOut) :
    Delivers limit url certificate issuer nonce (.ok r) (.error (.transport url (.io fault text)))
  | answered {r} (hs : 200 ≤ r.status ∧ r.status < 300)
      (hl : r.body.bytes.length ≤ limit.toNat) (hf : r.body.fault = none) :
    Delivers limit url certificate issuer nonce (.ok r)
      (.ok (verifyResponse r.body.bytes certificate issuer nonce))

section Reply

variable {settings : Settings} {url : String} {certificate issuer : Bytes} {nonce : Option Bytes}
  {x : Expectation}

theorem ofReply_of_not_success {r : HttpReply} (hs : ¬ (200 ≤ r.status ∧ r.status < 300)) :
    ofReply settings url x (.ok r) = some (.error (.status url r.status)) := by
  rw [← HttpReply.isSuccess_iff, Bool.not_eq_true] at hs
  simp [ofReply, hs]

theorem ofReply_of_success (hl : settings.network.maxResponseSize ≠ noLimit) {r : HttpReply}
    (hs : 200 ≤ r.status ∧ r.status < 300) : ofReply settings url x (.ok r) = some (
      if settings.network.maxResponseSize.toNat < r.body.bytes.length then
        .error (.transport url (.tooLarge url settings.network.maxResponseSize))
      else match r.body.fault with
        | none => .ok (StatusResponse.interpret r.body.bytes x)
        | some (.timedOut, _) => .error (.timeout url)
        | some (fault, text) => .error (.transport url (.io fault text))) := by
  rw [← HttpReply.isSuccess_iff] at hs
  simp only [ofReply, hs, Bool.not_true, Bool.false_eq_true, if_false, BodyStream.read_eq hl,
    Option.map_some]
  by_cases hlen : settings.network.maxResponseSize.toNat < r.body.bytes.length
  · simp only [if_pos hlen]
    rfl
  · simp only [if_neg hlen]
    rcases r.body.fault with _ | ⟨fault, text⟩
    · rfl
    · cases fault <;> rfl

theorem verifyResponse_of_expectation
    (hx : Expectation.ofEncoded? certificate issuer nonce = some x) (body : Bytes) :
    verifyResponse body certificate issuer nonce = StatusResponse.interpret body x := by
  rw [verifyResponse, hx]

theorem Delivers.result_eq {reply : Except HttpError HttpReply}
    {result : Except ResponderError Outcome} (hl : settings.network.maxResponseSize ≠ noLimit)
    (hx : Expectation.ofEncoded? certificate issuer nonce = some x)
    (h : Delivers settings.network.maxResponseSize url certificate issuer nonce reply result) :
    ofReply settings url x reply = some result := by
  cases h with
  | unanswered uri => rfl
  | cutOff text => rfl
  | @failed e ht hi =>
    cases e with
    | timeout uri => exact absurd rfl (ht uri)
    | io fault text =>
      cases fault with
      | timedOut => exact absurd rfl (hi text)
      | _ => rfl
    | _ => rfl
  | refused hs => rw [ofReply_of_not_success hs]
  | bodyTooLong hs hlen => rw [ofReply_of_success hl hs, if_pos hlen]
  | bodyCutOff hs hlen hf => rw [ofReply_of_success hl hs, if_neg (Nat.not_lt.2 hlen), hf]
  | @bodyFailed r fault text hs hlen hf hn =>
    rw [ofReply_of_success hl hs, if_neg (Nat.not_lt.2 hlen), hf]
    cases fault with
    | timedOut => exact absurd rfl hn
    | _ => rfl
  | answered hs hlen hf =>
    rw [ofReply_of_success hl hs, if_neg (Nat.not_lt.2 hlen), hf, verifyResponse_of_expectation hx]

theorem delivers_ofReply (hl : settings.network.maxResponseSize ≠ noLimit)
    (hx : Expectation.ofEncoded? certificate issuer nonce = some x)
    (reply : Except HttpError HttpReply) :
    ∃ result, ofReply settings url x reply = some result
      ∧ Delivers settings.network.maxResponseSize url certificate issuer nonce reply result := by
  rcases reply with e | r
  · refine ⟨_, rfl, ?_⟩
    cases e with
    | timeout uri => exact .unanswered uri
    | io fault text =>
      cases fault with
      | timedOut => exact .cutOff text
      | _ => exact .failed nofun nofun
    | _ => exact .failed nofun nofun
  by_cases hs : 200 ≤ r.status ∧ r.status < 300
  · refine ⟨_, ofReply_of_success hl hs, ?_⟩
    split_ifs with hlen
    · exact .bodyTooLong hs hlen
    · replace hlen := Nat.le_of_not_lt hlen
      rcases hf : r.body.fault with _ | ⟨fault, text⟩
      · rw [← verifyResponse_of_expectation hx]
        exact .answered hs hlen hf
      · cases fault with
        | timedOut => exact .bodyCutOff hs hlen hf
        | _ => exact .bodyFailed hs hlen hf nofun
  · exact ⟨_, ofReply_of_not_success hs, .refused hs⟩

theorem delivers_iff (hl : settings.network.maxResponseSize ≠ noLimit)
    (hx : Expectation.ofEncoded? certificate issuer nonce = some x)
    {reply : Except HttpError HttpReply} {result : Except ResponderError Outcome} :
    Delivers settings.network.maxResponseSize url certificate issuer nonce reply result
      ↔ ofReply settings url x reply = some result := by
  constructor
  · exact fun h => h.result_eq hl hx
  · intro h
    obtain ⟨result', hr, hd⟩ := delivers_ofReply hl hx reply
    rw [hr] at h
    exact Option.some.inj h ▸ hd

end Reply

section Run

variable {settings : Settings} {client : ServerTrust} {random certificate issuer : Bytes}
  {url : String} {x : Expectation} {σ : Type}

theorem run_askResponder_of_none
    (hx : Expectation.ofEncoded? certificate issuer ((sentNonce settings random).map nonceValue)
      = some x) (hu : Uri.parse? url = none) (servers : (q : Question) → σ → q.Answer × σ) (s : σ) :
    (askResponder settings client random certificate issuer url).run servers s
      = (some (.error (.transport url .invalidRequest)), [], s) := by
  rw [askResponder_eq, hx]
  simp only [hu]
  rfl

theorem run_askResponder
    (hx : Expectation.ofEncoded? certificate issuer ((sentNonce settings random).map nonceValue)
      = some x) {uri : Uri} (hu : Uri.parse? url = some uri) {q : StatusRequest}
    (hq : q = make x.certificate (sentNonce settings random))
    (servers : (q : Question) → σ → q.Answer × σ) (s : σ) :
    (askResponder settings client random certificate issuer url).run servers s
      = (ofReply settings url x (servers (.fetch client (q.post uri)) s).1,
        [.fetch client (q.post uri)], (servers (.fetch client (q.post uri)) s).2) := by
  subst hq
  rw [askResponder_eq, hx]
  simp only [hu]
  exact Inquiry.run_fetch_ofOption servers _ s

end Run

/-- Asking a responder about a certificate posts one request to an address that is one, and always
comes to what the reply to it delivers; to another address nothing is sent.  Of the body that is
posted, a responder reads the certificate and the nonce, if one is sent. -/
theorem run_askResponder_iff {settings : Settings} {certificate issuer : Bytes}
    {c i : Canonical.Certificate} {parsed : Certificate}
    (hl : settings.network.maxResponseSize < noLimit)
    (hc : Canonical.Certificate.decode? certificate = some c)
    (hi : Canonical.Certificate.decode? issuer = some i)
    (hp : Certificate.decode? issuer = some parsed) (client : ServerTrust) (random : Bytes)
    (url : String) {σ : Type} (servers : (q : Question) → σ → q.Answer × σ) (s : σ) :
    (Uri.parse? url = none →
      (askResponder settings client random certificate issuer url).run servers s
        = (some (.error (.transport url .invalidRequest)), [], s))
    ∧ ∀ uri q, Uri.parse? url = some uri → q = make (.about c i) (sentNonce settings random) →
      (certificate.length < 2 ^ 63 → random.length = nonceLength →
        ReceivedRequest.read.run q.encode = (some ⟨0, none, [⟨.about c i, none⟩],
          (sentNonce settings random).map fun bytes => [⟨nonceName, false, nonceValue bytes⟩],
          none⟩, []))
      ∧ ∀ request : HttpRequest, request = ⟨.post, uri,
          [("content-type", "application/ocsp-request"), ("accept", "application/ocsp-response")],
          q.encode⟩ →
        (∃ result, ((askResponder settings client random certificate issuer url).run servers s).1
          = some result)
        ∧ ∀ result asked s',
          (askResponder settings client random certificate issuer url).run servers s
              = (some result, asked, s')
            ↔ asked = [.fetch client request] ∧ s' = (servers (.fetch client request) s).2
              ∧ Delivers settings.network.maxResponseSize url certificate issuer q.nonce
                (servers (.fetch client request) s).1 result := by
  have hx := Expectation.ofEncoded?_of_decode hc hi hp ((sentNonce settings random).map nonceValue)
  refine ⟨fun hu => run_askResponder_of_none hx hu servers s, ?_⟩
  intro uri q hu hq
  refine ⟨fun hlen hr => hq ▸ run_read_sent hc hlen hr, ?_⟩
  rintro _ rfl
  have hnonce : q.nonce = (sentNonce settings random).map nonceValue := by rw [hq, make]
  refine ⟨?_, fun result asked s' => ?_⟩
  · obtain ⟨result, hr, -⟩ := @delivers_ofReply _ settings url _ _ _ _ (UInt64.ne_of_lt hl) hx
      (servers (.fetch client (q.post uri)) s).1
    exact ⟨result, (congrArg Prod.fst (run_askResponder hx hu hq servers s)).trans hr⟩
  have hd := @delivers_iff _ settings url _ _ _ _ (UInt64.ne_of_lt hl) hx
    (servers (.fetch client (q.post uri)) s).1 result
  rw [run_askResponder hx hu hq, hnonce, Prod.mk.injEq, Prod.mk.injEq]
  constructor
  · rintro ⟨hr, ha, hs⟩
    exact ⟨ha.symm, hs.symm, hd.2 hr⟩
  · rintro ⟨ha, hs, hr⟩
    exact ⟨hd.1 hr, ha.symm, hs.symm⟩

end

/-- The sample answer, received in full, is judged as one received elsewhere. -/
theorem run_askResponder_iff_of_sample :
    ∃ question, (askResponder {} .checked Validator.sampleRandom sampleCertificate sampleIssuer
        "http://o").run Validator.sampleServers ()
      = (some (.ok (verifyResponse sampleAnswer sampleCertificate sampleIssuer
          (some (nonceValue Validator.sampleRandom)))), [question], ()) := by
  obtain ⟨c, hc⟩ : ∃ c, Canonical.Certificate.decode? sampleCertificate = some c :=
    Option.isSome_iff_exists.1 (by decide +kernel)
  obtain ⟨i, hi⟩ : ∃ i, Canonical.Certificate.decode? sampleIssuer = some i :=
    Option.isSome_iff_exists.1 (by decide +kernel)
  obtain ⟨parsed, hp⟩ : ∃ parsed, Certificate.decode? sampleIssuer = some parsed :=
    Option.isSome_iff_exists.1 (by decide +kernel)
  obtain ⟨uri, hu⟩ : ∃ uri, Uri.parse? "http://o" = some uri :=
    Option.isSome_iff_exists.1 (by decide +kernel)
  have hrun := (run_askResponder_iff (show ({} : Settings).network.maxResponseSize < noLimit by
    decide) hc hi hp .checked Validator.sampleRandom "http://o" Validator.sampleServers ()).2
      uri _ hu rfl
  have hbytes : (BodyStream.mk [sampleAnswer] none).bytes = sampleAnswer :=
    List.append_nil sampleAnswer
  have hlen : sampleAnswer.length ≤ ({} : Settings).network.maxResponseSize.toNat := by
    decide +kernel
  rw [← hbytes] at hlen
  have hd := @Delivers.answered _ _ "http://o" sampleCertificate sampleIssuer
    (some (nonceValue Validator.sampleRandom)) ⟨200, ⟨[sampleAnswer], none⟩⟩ (by decide) hlen rfl
  rw [hbytes] at hd
  exact ⟨_, ((hrun.2 _ rfl).2 _ _ _).2 ⟨rfl, rfl, hd⟩⟩

end StatusRequest

end SignerTrust
