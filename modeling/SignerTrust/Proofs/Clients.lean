import SignerTrust.Proofs.Authentic

/-!
# Which clients are used

A validation puts all questions about a certificate to one HTTP client and one directory client,
which its ecosystem and the settings choose (`asksOnly_validate`).  An inquiry that asks only some
questions comes to the same result against all servers that answer these alike
(`AsksOnly.run_congr`), so that nothing the other clients would get bears on a verdict.
-/

namespace SignerTrust

/-- The client that a question is put to. -/
def Question.client : Question → ServerTrust
  | fetch client _ => client
  | lookUp client _ _ => client

/-- Whether a question is put to a client of a route. -/
def Question.Follows (route : Route) : Question → Prop
  | fetch client _ => client = route.http
  | lookUp client _ _ => client = route.directory

namespace Inquiry

variable {α β σ τ : Type} {P : Question → Prop}

/-- Whether an inquiry asks only questions of a kind, whatever the answers are. -/
def AsksOnly (P : Question → Prop) : Inquiry α → Prop
  | done _ => True
  | breakOff => True
  | ask q k => P q ∧ ∀ answer, AsksOnly P (k answer)

theorem asksOnly_pure (a : α) : AsksOnly P (pure a) := trivial

theorem AsksOnly.bind {f : α → Inquiry β} :
    ∀ {x : Inquiry α}, AsksOnly P x → (∀ a, AsksOnly P (f a)) → AsksOnly P (x >>= f)
  | done a, _, hf => hf a
  | breakOff, _, _ => trivial
  | ask _ _, h, hf => ⟨h.1, fun answer => AsksOnly.bind (h.2 answer) hf⟩

theorem asksOnly_ofOption (o : Option α) : AsksOnly P (ofOption o) := by
  cases o <;> trivial

theorem asksOnly_fetch (route : Route) (request : HttpRequest) :
    AsksOnly (Question.Follows route) (fetch route.http request) :=
  ⟨rfl, fun _ => trivial⟩

theorem asksOnly_lookUp (route : Route) (url name : String) :
    AsksOnly (Question.Follows route) (lookUp route.directory url name) :=
  ⟨rfl, fun _ => trivial⟩

theorem AsksOnly.asked (servers : (q : Question) → σ → q.Answer × σ) :
    ∀ {x : Inquiry α}, AsksOnly P x → ∀ (s : σ), ∀ q ∈ (x.run servers s).2.1, P q
  | done a, _, s, q, hq => by cases hq
  | breakOff, _, s, q, hq => by cases hq
  | ask q k, h, s, q', hq => by
    simp only [run] at hq
    rcases List.mem_cons.1 hq with rfl | hq
    · exact h.1
    · exact AsksOnly.asked servers (h.2 _) _ q' hq

/-- Servers that stay alike in the questions that are asked give the same result, and are asked the
same. -/
theorem AsksOnly.run_congr {servers : (q : Question) → σ → q.Answer × σ}
    {servers' : (q : Question) → τ → q.Answer × τ} {alike : σ → τ → Prop}
    (ha : ∀ q, P q → ∀ s t, alike s t →
      (servers q s).1 = (servers' q t).1 ∧ alike (servers q s).2 (servers' q t).2) :
    ∀ {x : Inquiry α}, AsksOnly P x → ∀ {s : σ} {t : τ}, alike s t →
      (x.run servers s).1 = (x.run servers' t).1 ∧ (x.run servers s).2.1 = (x.run servers' t).2.1
  | done a, _, s, t, _ => ⟨rfl, rfl⟩
  | breakOff, _, s, t, _ => ⟨rfl, rfl⟩
  | ask q k, h, s, t, hst => by
    obtain ⟨h₁, h₂⟩ := ha q h.1 s t hst
    obtain ⟨ih₁, ih₂⟩ := AsksOnly.run_congr ha (h.2 (servers q s).1) h₂
    simp only [run]
    rw [ih₁, ih₂, h₁]
    exact ⟨rfl, rfl⟩

end Inquiry

open Inquiry

theorem RevocationList.asksOnly_walk [CryptoLibrary] {settings : Settings} {route : Route}
    {key : Option Bytes} {serial : Nat} : ∀ (points : List String) (progress : Progress),
    AsksOnly (Question.Follows route) (walk settings route key serial progress points)
  | [], _ => trivial
  | point :: rest, progress => by
    have ih : ∀ progress, AsksOnly (Question.Follows route)
        (walk settings route key serial progress rest) := asksOnly_walk rest
    have hd : AsksOnly (Question.Follows route) (download settings route point) := by
      by_cases hw : DistributionPoint.IsWeb point
      · rw [download_of_isWeb hw]
        split
        · trivial
        · exact (asksOnly_fetch route _).bind fun _ =>
            (asksOnly_ofOption _).bind fun _ => asksOnly_pure _
      by_cases hd : DistributionPoint.IsDirectory point
      · rw [download_of_isDirectory hd]
        exact (asksOnly_lookUp route _ _).bind fun _ => asksOnly_pure _
      · rw [download_of_other hw hd]
        trivial
    unfold walk
    split_ifs
    · exact ih progress
    refine hd.bind fun r => ?_
    rcases r with e | encoding
    · exact ih _
    · rcases hx : examine key serial encoding <;> simp only [hx]
      · trivial
      · trivial
      · exact ih _

theorem StatusRequest.asksOnly_check [CryptoLibrary] {settings : Settings}
    {random certificate issuer : Bytes} (route : Route) :
    AsksOnly (Question.Follows route) (check settings route.http random certificate issuer) := by
  unfold check
  split
  · trivial
  split
  · trivial
  rw [askResponder_eq]
  split
  · trivial
  split
  · trivial
  · exact (asksOnly_fetch route _).bind fun _ => asksOnly_ofOption _

namespace Validator

variable {v : Validator} {random certificate : Bytes}

/-- The clients for an ecosystem, as the validator has them and its settings list it. -/
theorem route_eq (e : Ecosystem) : v.route e =
    ⟨if v.hasUncheckedHttp = true ∧ e ∈ v.settings.network.insecureEcosystems then .unchecked
        else .checked,
      if v.hasUncheckedDirectory = true ∧ e ∈ v.settings.network.insecureEcosystems then .unchecked
        else .checked⟩ := by
  simp only [route, isInsecure, Bool.and_eq_true, List.contains_iff_mem]

theorem route_ofSettings (registry : Registry) (settings : Settings) (e : Ecosystem) :
    (ofSettings registry settings).route e =
      if e ∈ settings.network.insecureEcosystems then ⟨.unchecked, .unchecked⟩
      else ⟨.checked, .checked⟩ := by
  rw [route_eq]
  simp only [ofSettings]
  by_cases he : e ∈ settings.network.insecureEcosystems
  · have hne : settings.network.insecureEcosystems.isEmpty = false := by
      rw [List.isEmpty_eq_false_iff]
      exact List.ne_nil_of_mem he
    simp [he, hne]
  · simp [he]

/-- Whether a question goes to the client that it should: one that does not check servers exactly if
there is one and the ecosystem is listed for it. -/
def IsRouted (v : Validator) (e : Ecosystem) : Question → Prop
  | .fetch client _ => client = .unchecked ↔
    v.hasUncheckedHttp = true ∧ e ∈ v.settings.network.insecureEcosystems
  | .lookUp client _ _ => client = .unchecked ↔
    v.hasUncheckedDirectory = true ∧ e ∈ v.settings.network.insecureEcosystems

theorem follows_route_iff {e : Ecosystem} {q : Question} :
    q.Follows (v.route e) ↔ v.IsRouted e q := by
  rw [route_eq]
  cases q with
  | fetch client request =>
    simp only [Question.Follows, IsRouted]
    split_ifs with hx <;> cases client <;> simp [hx]
  | lookUp client url name =>
    simp only [Question.Follows, IsRouted]
    split_ifs with hx <;> cases client <;> simp [hx]

section

variable [CryptoLibrary]

theorem asksOnly_checkRevocation {e : Ecosystem} {sub : TrustAnchor} :
    AsksOnly (Question.Follows (v.route e)) (v.checkRevocation random certificate e sub) := by
  have hl : AsksOnly (Question.Follows (v.route e)) (v.checkLists (v.route e) certificate sub) := by
    unfold checkLists RevocationList.check
    simp only []
    split
    · trivial
    · exact RevocationList.asksOnly_walk _ _
  cases hp : v.settings.responders.preferred
  · rw [checkRevocation_of_not_preferred hp]
    exact hl.bind fun _ => asksOnly_pure _
  rw [checkRevocation_of_preferred hp]
  refine (StatusRequest.asksOnly_check (v.route e)).bind fun answer => ?_
  rcases answer with err | o
  · unfold afterAnswer
    split_ifs
    · trivial
    · exact hl.bind fun _ => asksOnly_pure _
  · simp only [afterAnswer]
    split_ifs
    · trivial
    · exact hl.bind fun _ => asksOnly_pure _

/-- All questions of a validation go to the clients for the certificate's ecosystem. -/
theorem asksOnly_validate {e : Ecosystem} {holder : HolderType}
    (h : classifyEncoded certificate = .ok (e, holder)) :
    AsksOnly (Question.Follows (v.route e)) (v.validate random certificate) := by
  unfold validate
  rw [h]
  simp only []
  split
  · trivial
  · exact asksOnly_checkRevocation.bind fun _ => asksOnly_pure _

/-- A validation of a certificate of an ecosystem asks the clients for it and no others.  Its
verdict and its questions are the same against all servers that are alike to these clients, whatever
the other clients would get.  A validator that settings ask for uses the clients that do not check
servers exactly for the listed ecosystems. -/
theorem validate_keeps_to_clients {e : Ecosystem} {holder : HolderType}
    (h : classifyEncoded certificate = .ok (e, holder)) (v : Validator) (random : Bytes) :
    (∀ {σ : Type} (servers : (q : Question) → σ → q.Answer × σ) (s : σ),
      ∀ q ∈ ((v.validate random certificate).run servers s).2.1, v.IsRouted e q)
    ∧ (∀ {σ τ : Type} (servers : (q : Question) → σ → q.Answer × σ)
        (servers' : (q : Question) → τ → q.Answer × τ) (alike : σ → τ → Prop),
      (∀ q, v.IsRouted e q → ∀ s t, alike s t →
        (servers q s).1 = (servers' q t).1 ∧ alike (servers q s).2 (servers' q t).2) →
      ∀ s t, alike s t →
        ((v.validate random certificate).run servers s).1
            = ((v.validate random certificate).run servers' t).1
          ∧ ((v.validate random certificate).run servers s).2.1
            = ((v.validate random certificate).run servers' t).2.1)
    ∧ ∀ (registry : Registry) (settings : Settings) {σ : Type}
        (servers : (q : Question) → σ → q.Answer × σ) (s : σ),
      ∀ q ∈ (((ofSettings registry settings).validate random certificate).run servers s).2.1,
        q.client = .unchecked ↔ e ∈ settings.network.insecureEcosystems := by
  refine ⟨fun servers s q hq => ?_, fun servers servers' alike ha s t hst => ?_,
    fun registry settings σ servers s q hq => ?_⟩
  · exact follows_route_iff.1 ((asksOnly_validate h).asked servers s q hq)
  · exact AsksOnly.run_congr (fun q hq => ha q (follows_route_iff.1 hq)) (asksOnly_validate h) hst
  · have hf := (asksOnly_validate h).asked servers s q hq
    rw [route_ofSettings] at hf
    cases q <;> simp only [Question.Follows] at hf <;> rw [Question.client, hf] <;>
      split_ifs with hx <;> simp [hx]

end

/-- A validator for which the sample certificate's ecosystem is listed, and which has an HTTP client
that does not check servers, but no such directory client. -/
def listedValidator : Validator where
  registry := sampleValidator.registry
  settings := { network := { insecureEcosystems := [.securityData] } }
  hasUncheckedHttp := true

/-- Servers that give the sample answer to the clients that do not check them, and something else
to the others. -/
def splitServers (other : HttpReply) : (q : Question) → Unit → q.Answer × Unit
  | .fetch .unchecked _, s => (.ok ⟨200, ⟨[sampleAnswer], none⟩⟩, s)
  | .fetch .checked _, s => (.ok other, s)
  | .lookUp _ _ _, s => (.error .failed, s)

theorem validate_keeps_to_clients_of_sample :
    ((listedValidator.validate sampleRandom sampleCertificate).run
        (splitServers ⟨500, ⟨[], none⟩⟩) ()).1
      = some ⟨.securityData, .naturalPerson, .valid, some .responder⟩ := by
  have hc : classifyEncoded sampleCertificate = .ok (.securityData, .naturalPerson) := by
    decide +kernel
  have hv : ((listedValidator.validate sampleRandom sampleCertificate).run sampleServers ()).1
      = some ⟨.securityData, .naturalPerson, .valid, some .responder⟩ := by decide +kernel
  have hl : Ecosystem.securityData ∈ listedValidator.settings.network.insecureEcosystems :=
    List.mem_singleton_self _
  rw [← hv]
  refine ((validate_keeps_to_clients hc listedValidator sampleRandom).2.1 _ _ (fun _ _ => True)
    (fun q hq _ _ _ => ⟨?_, trivial⟩) () () trivial).1
  cases q with
  | fetch client request =>
    cases client with
    | checked => cases hq.2 ⟨rfl, hl⟩
    | unchecked => rfl
  | lookUp client url name => rfl

end Validator

end SignerTrust
