import SignerTrust.Proofs.ListCheck
import SignerTrust.Proofs.ResponderAnswer
import SignerTrust.Validation

/-!
# How responder and lists settle a status

`Settles` is the table by which the answer of the responder and the outcome of the lists settle the
status of a certificate: one row for each way in which they can come together.  The exchanges and
outcomes of a check are those of the table (`settles_of_checkRevocation`,
`Settles.checkRevocation_yields`), and a validation either asks nothing or settles by it the status
of a certificate that it could classify (`validate_yields_cases`).  Where a limit leaves no bound
for reading, a check may also break off while one of the two is asked (`Unsettled`).
-/

namespace SignerTrust.Validator

variable {v : Validator} {random certificate : Bytes}

theorem classifyEncoded_of_decode {c : Certificate}
    (hc : Certificate.decode? certificate = some c) :
    classifyEncoded certificate = c.classify := by
  simp only [classifyEncoded, hc]

theorem classifyEncoded_of_undecodable (hc : Certificate.decode? certificate = none) :
    classifyEncoded certificate = .error .corrupt := by
  simp only [classifyEncoded, hc]

theorem classifyEncoded_eq_ok {e : Ecosystem} {holder : HolderType}
    (h : classifyEncoded certificate = .ok (e, holder)) :
    ∃ c, Certificate.decode? certificate = some c := by
  unfold classifyEncoded at h
  split at h
  · cases h
  · rename_i c hc
    exact ⟨c, hc⟩

theorem settle_error (lists : Outcome) : settle none lists = (lists, .lists) := by
  cases lists <;> rfl

theorem settle_unknown (answer : Outcome) :
    settle (some answer) .unknown = (answer, .responder) := rfl

theorem settle_of_ne {lists : Outcome} (h : lists ≠ .unknown) (answer : Option Outcome) :
    settle answer lists = (lists, .lists) := by
  cases lists <;> first | rfl | exact absurd rfl h

theorem isDefinitive_eq_false {o : Outcome} (h : ¬ (o = .valid ∨ o = .revoked)) :
    o.isDefinitive = false := by
  rwa [← Bool.not_eq_true, Outcome.isDefinitive_iff]

variable [CryptoLibrary]

/-- Asks the responder of a certificate of an ecosystem, whose issuing authority is `sub`. -/
def askResponder (v : Validator) (random certificate : Bytes) (e : Ecosystem) (sub : TrustAnchor) :
    Inquiry (Except ResponderError Outcome) :=
  StatusRequest.check v.settings (v.route e).http random certificate sub.encoding

/-- How responder and lists settle the status of a certificate: after which exchanges, to which
outcome, and by which of the two. -/
inductive Settles (v : Validator) (random certificate : Bytes) (e : Ecosystem) (sub : TrustAnchor) :
    List Exchange → Outcome → CheckMethod → Prop
  | listsOnly {es lists} (hp : v.settings.responders.preferred = false)
      (hl : (v.checkLists (v.route e) certificate sub).Yields es lists) :
    Settles v random certificate e sub es lists .lists
  | definitive {es answer} (hp : v.settings.responders.preferred = true)
      (hr : (v.askResponder random certificate e sub).Yields es (.ok answer))
      (hd : answer = .valid ∨ answer = .revoked) :
    Settles v random certificate e sub es answer .responder
  | answerOnly {es answer} (hp : v.settings.responders.preferred = true)
      (hf : v.settings.responders.listsAsFallback = false)
      (hr : (v.askResponder random certificate e sub).Yields es (.ok answer))
      (hd : ¬ (answer = .valid ∨ answer = .revoked)) :
    Settles v random certificate e sub es answer .responder
  | noResponder {es} (hp : v.settings.responders.preferred = true)
      (hf : v.settings.responders.listsAsFallback = false)
      (hr : (v.askResponder random certificate e sub).Yields es (.error .noResponder)) :
    Settles v random certificate e sub es .unknown .responder
  | noAnswer {es err} (hp : v.settings.responders.preferred = true)
      (hf : v.settings.responders.listsAsFallback = false)
      (hr : (v.askResponder random certificate e sub).Yields es (.error err))
      (hn : err ≠ .noResponder) :
    Settles v random certificate e sub es .serverError .responder
  | listsAfterError {es₁ es₂ err lists} (hp : v.settings.responders.preferred = true)
      (hf : v.settings.responders.listsAsFallback = true)
      (hr : (v.askResponder random certificate e sub).Yields es₁ (.error err))
      (hl : (v.checkLists (v.route e) certificate sub).Yields es₂ lists) :
    Settles v random certificate e sub (es₁ ++ es₂) lists .lists
  | listsAfterAnswer {es₁ es₂ answer lists} (hp : v.settings.responders.preferred = true)
      (hf : v.settings.responders.listsAsFallback = true)
      (hr : (v.askResponder random certificate e sub).Yields es₁ (.ok answer))
      (hd : ¬ (answer = .valid ∨ answer = .revoked))
      (hl : (v.checkLists (v.route e) certificate sub).Yields es₂ lists)
      (hu : lists ≠ .unknown) :
    Settles v random certificate e sub (es₁ ++ es₂) lists .lists
  | answerKept {es₁ es₂ answer} (hp : v.settings.responders.preferred = true)
      (hf : v.settings.responders.listsAsFallback = true)
      (hr : (v.askResponder random certificate e sub).Yields es₁ (.ok answer))
      (hd : ¬ (answer = .valid ∨ answer = .revoked))
      (hl : (v.checkLists (v.route e) certificate sub).Yields es₂ .unknown) :
    Settles v random certificate e sub (es₁ ++ es₂) answer .responder

/-- How a check breaks off: while the lists are asked, which come first or are turned to as the
responder did not settle the status, or while the responder is. -/
inductive Unsettled (v : Validator) (random certificate : Bytes) (e : Ecosystem)
    (sub : TrustAnchor) : List Exchange → Prop
  | lists {es} (hp : v.settings.responders.preferred = false)
      (hl : (v.checkLists (v.route e) certificate sub).BreaksOff es) :
    Unsettled v random certificate e sub es
  | responder {es} (hp : v.settings.responders.preferred = true)
      (hr : (v.askResponder random certificate e sub).BreaksOff es) :
    Unsettled v random certificate e sub es
  | listsAfter {es₁ es₂ r} (hp : v.settings.responders.preferred = true)
      (hf : v.settings.responders.listsAsFallback = true)
      (hr : (v.askResponder random certificate e sub).Yields es₁ r)
      (hd : r ≠ .ok .valid ∧ r ≠ .ok .revoked)
      (hl : (v.checkLists (v.route e) certificate sub).BreaksOff es₂) :
    Unsettled v random certificate e sub (es₁ ++ es₂)

section Check

variable {e : Ecosystem} {sub : TrustAnchor}

theorem checkRevocation_of_not_preferred (hp : v.settings.responders.preferred = false) :
    v.checkRevocation random certificate e sub =
      v.checkLists (v.route e) certificate sub >>= fun lists => pure (lists, .lists) := by
  simp only [checkRevocation, hp, Bool.not_false, if_true]

/-- How the check goes on after the responder was asked. -/
def afterAnswer (v : Validator) (certificate : Bytes) (e : Ecosystem) (sub : TrustAnchor) :
    Except ResponderError Outcome → Inquiry (Outcome × CheckMethod)
  | .ok o =>
    if o.isDefinitive || !v.settings.responders.listsAsFallback then pure (o, .responder)
    else v.checkLists (v.route e) certificate sub >>= fun lists => pure (settle (some o) lists)
  | .error err =>
    if !v.settings.responders.listsAsFallback then pure (failureOutcome err, .responder)
    else v.checkLists (v.route e) certificate sub >>= fun lists => pure (settle none lists)

theorem checkRevocation_of_preferred (hp : v.settings.responders.preferred = true) :
    v.checkRevocation random certificate e sub =
      v.askResponder random certificate e sub >>= v.afterAnswer certificate e sub := by
  simp only [checkRevocation, hp, Bool.not_true, Bool.false_eq_true, if_false, askResponder]
  rfl

/-- After the lists a result is theirs, settled with the answer. -/
theorem checkLists_settle_yields {answer : Option Outcome} {es : List Exchange} {o : Outcome}
    {m : CheckMethod} :
    (v.checkLists (v.route e) certificate sub >>= fun lists =>
      (pure (settle answer lists) : Inquiry _)).Yields es (o, m) ↔
      ∃ lists, (v.checkLists (v.route e) certificate sub).Yields es lists
        ∧ settle answer lists = (o, m) := by
  rw [Inquiry.yields_bind]
  constructor
  · rintro ⟨es₁, lists, es₂, h₁, h₂, rfl⟩
    obtain ⟨rfl, h⟩ := Inquiry.yields_pure.1 h₂
    exact ⟨lists, by rwa [List.append_nil], h.symm⟩
  · rintro ⟨lists, h, hs⟩
    exact ⟨es, lists, [], h, Inquiry.yields_pure.2 ⟨rfl, hs.symm⟩, (List.append_nil es).symm⟩

theorem settles_of_checkRevocation {es : List Exchange} {o : Outcome} {m : CheckMethod}
    (h : (v.checkRevocation random certificate e sub).Yields es (o, m)) :
    Settles v random certificate e sub es o m := by
  cases hp : v.settings.responders.preferred
  · rw [checkRevocation_of_not_preferred hp] at h
    obtain ⟨es₁, lists, es₂, h₁, h₂, rfl⟩ := Inquiry.yields_bind.1 h
    obtain ⟨rfl, hr⟩ := Inquiry.yields_pure.1 h₂
    cases hr
    rw [List.append_nil]
    exact .listsOnly hp h₁
  rw [checkRevocation_of_preferred hp] at h
  obtain ⟨es₁, answer, es₂, h₁, h₂, rfl⟩ := Inquiry.yields_bind.1 h
  cases hf : v.settings.responders.listsAsFallback <;> rcases answer with err | answer <;>
    simp only [afterAnswer, hf, Bool.not_false, Bool.not_true, Bool.or_true, Bool.or_false,
      Bool.false_eq_true, if_true, if_false] at h₂
  · obtain ⟨rfl, hr⟩ := Inquiry.yields_pure.1 h₂
    cases hr
    rw [List.append_nil]
    by_cases hn : err = .noResponder
    · subst hn
      exact .noResponder hp hf h₁
    · have ho : failureOutcome err = .serverError := by
        cases err <;> first | rfl | exact absurd rfl hn
      rw [ho]
      exact .noAnswer hp hf h₁ hn
  · obtain ⟨rfl, hr⟩ := Inquiry.yields_pure.1 h₂
    cases hr
    rw [List.append_nil]
    by_cases hd : o = .valid ∨ o = .revoked
    · exact .definitive hp h₁ hd
    · exact .answerOnly hp hf h₁ hd
  · obtain ⟨lists, hl, hs⟩ := checkLists_settle_yields.1 h₂
    rw [settle_error] at hs
    cases hs
    exact .listsAfterError hp hf h₁ hl
  · by_cases hd : answer = .valid ∨ answer = .revoked
    · rw [if_pos (Outcome.isDefinitive_iff.2 hd)] at h₂
      obtain ⟨rfl, hr⟩ := Inquiry.yields_pure.1 h₂
      cases hr
      rw [List.append_nil]
      exact .definitive hp h₁ hd
    rw [if_neg (Outcome.isDefinitive_iff.not.2 hd)] at h₂
    obtain ⟨lists, hl, hs⟩ := checkLists_settle_yields.1 h₂
    by_cases hu : lists = .unknown
    · subst hu
      rw [settle_unknown] at hs
      cases hs
      exact .answerKept hp hf h₁ hd hl
    · rw [settle_of_ne hu] at hs
      cases hs
      exact .listsAfterAnswer hp hf h₁ hd hl hu

theorem checkRevocation_yields_of_afterAnswer {es₁ es₂ : List Exchange} {o : Outcome}
    {m : CheckMethod} {answer : Except ResponderError Outcome}
    (hp : v.settings.responders.preferred = true)
    (h₁ : (v.askResponder random certificate e sub).Yields es₁ answer)
    (h₂ : (v.afterAnswer certificate e sub answer).Yields es₂ (o, m)) :
    (v.checkRevocation random certificate e sub).Yields (es₁ ++ es₂) (o, m) := by
  rw [checkRevocation_of_preferred hp]
  exact Inquiry.yields_bind.2 ⟨es₁, answer, es₂, h₁, h₂, rfl⟩

theorem Settles.checkRevocation_yields {es : List Exchange} {o : Outcome} {m : CheckMethod}
    (h : Settles v random certificate e sub es o m) :
    (v.checkRevocation random certificate e sub).Yields es (o, m) := by
  have alone : ∀ {es answer}, v.settings.responders.preferred = true →
      (v.askResponder random certificate e sub).Yields es answer →
      v.afterAnswer certificate e sub answer = pure (o, m) →
      (v.checkRevocation random certificate e sub).Yields es (o, m) := by
    intro es answer hp hr ha
    rw [← List.append_nil es]
    refine checkRevocation_yields_of_afterAnswer hp hr ?_
    rw [ha]
    exact Inquiry.yields_pure.2 ⟨rfl, rfl⟩
  cases h with
  | listsOnly hp hl =>
    rw [checkRevocation_of_not_preferred hp]
    exact Inquiry.yields_bind.2
      ⟨es, o, [], hl, Inquiry.yields_pure.2 ⟨rfl, rfl⟩, (List.append_nil es).symm⟩
  | definitive hp hr hd =>
    refine alone hp hr ?_
    simp only [afterAnswer, Outcome.isDefinitive_iff.2 hd, Bool.true_or, if_true]
  | answerOnly hp hf hr hd =>
    refine alone hp hr ?_
    simp only [afterAnswer, hf, Bool.not_false, Bool.or_true, if_true]
  | noResponder hp hf hr =>
    refine alone hp hr ?_
    simp only [afterAnswer, hf, Bool.not_false, if_true, failureOutcome]
  | @noAnswer _ err hp hf hr hn =>
    refine alone hp hr ?_
    simp only [afterAnswer, hf, Bool.not_false, if_true]
    cases err <;> first | rfl | exact absurd rfl hn
  | listsAfterError hp hf hr hl =>
    refine checkRevocation_yields_of_afterAnswer hp hr ?_
    simp only [afterAnswer, hf, Bool.not_true, Bool.false_eq_true, if_false]
    exact checkLists_settle_yields.2 ⟨o, hl, settle_error o⟩
  | listsAfterAnswer hp hf hr hd hl hu =>
    refine checkRevocation_yields_of_afterAnswer hp hr ?_
    simp only [afterAnswer, hf, isDefinitive_eq_false hd, Bool.not_true, Bool.or_self,
      Bool.false_eq_true, if_false]
    exact checkLists_settle_yields.2 ⟨o, hl, settle_of_ne hu _⟩
  | answerKept hp hf hr hd hl =>
    refine checkRevocation_yields_of_afterAnswer hp hr ?_
    simp only [afterAnswer, hf, isDefinitive_eq_false hd, Bool.not_true, Bool.or_self,
      Bool.false_eq_true, if_false]
    exact checkLists_settle_yields.2 ⟨.unknown, hl, settle_unknown o⟩

theorem checkLists_settle_breaksOff {answer : Option Outcome} {es : List Exchange} :
    (v.checkLists (v.route e) certificate sub >>= fun lists =>
      (pure (settle answer lists) : Inquiry _)).BreaksOff es ↔
      (v.checkLists (v.route e) certificate sub).BreaksOff es := by
  rw [Inquiry.breaksOff_bind]
  refine or_iff_left ?_
  rintro ⟨_, _, _, -, h, -⟩
  exact Inquiry.not_breaksOff_pure h

theorem afterAnswer_breaksOff {r : Except ResponderError Outcome} {es : List Exchange}
    (h : (v.afterAnswer certificate e sub r).BreaksOff es) :
    v.settings.responders.listsAsFallback = true ∧ (r ≠ .ok .valid ∧ r ≠ .ok .revoked)
      ∧ (v.checkLists (v.route e) certificate sub).BreaksOff es := by
  rcases r with err | o <;> simp only [afterAnswer] at h <;> split_ifs at h with hf
  · exact absurd h Inquiry.not_breaksOff_pure
  · exact ⟨by simpa using hf, ⟨nofun, nofun⟩, checkLists_settle_breaksOff.1 h⟩
  · exact absurd h Inquiry.not_breaksOff_pure
  · simp only [Bool.or_eq_true, Bool.not_eq_true', not_or, Bool.not_eq_false,
      Outcome.isDefinitive_iff] at hf
    exact ⟨hf.2, by simpa using hf.1, checkLists_settle_breaksOff.1 h⟩

theorem unsettled_of_checkRevocation {es : List Exchange}
    (h : (v.checkRevocation random certificate e sub).BreaksOff es) :
    Unsettled v random certificate e sub es := by
  cases hp : v.settings.responders.preferred
  · rw [checkRevocation_of_not_preferred hp] at h
    rcases Inquiry.breaksOff_bind.1 h with h | ⟨_, _, _, -, h, -⟩
    · exact .lists hp h
    · exact absurd h Inquiry.not_breaksOff_pure
  · rw [checkRevocation_of_preferred hp] at h
    rcases Inquiry.breaksOff_bind.1 h with h | ⟨es₁, r, es₂, h₁, h₂, rfl⟩
    · exact .responder hp h
    · obtain ⟨hf, hd, hl⟩ := afterAnswer_breaksOff h₂
      exact .listsAfter hp hf h₁ hd hl

/-- With any limit but the greatest, every check settles the status. -/
theorem not_unsettled (hm : v.settings.network.maxResponseSize ≠ noLimit) {es : List Exchange} :
    ¬ Unsettled v random certificate e sub es := by
  intro h
  cases h with
  | lists hp hl => exact RevocationList.not_check_breaksOff hm hl
  | responder hp hr => exact StatusRequest.not_check_breaksOff hm hr
  | listsAfter hp hf hr hd hl => exact RevocationList.not_check_breaksOff hm hl

end Check

theorem validate_of_error {err : ClassifyError} (h : classifyEncoded certificate = .error err) :
    v.validate random certificate
      = pure (.unchecked (ecosystemOf err) (Outcome.ofClassifyError err)) := by
  simp only [validate, h]

theorem validate_yields_of_ok {e : Ecosystem} {holder : HolderType} {sub : TrustAnchor}
    (h : classifyEncoded certificate = .ok (e, holder)) (ha : v.registry.anchor e .sub = .ok sub)
    {es : List Exchange} {verdict : Verdict} :
    (v.validate random certificate).Yields es verdict ↔
      ∃ o m, Settles v random certificate e sub es o m ∧ verdict = ⟨e, holder, o, some m⟩ := by
  simp only [validate, h, ha]
  constructor
  · intro hy
    obtain ⟨es₁, ⟨o, m⟩, _, h₁, h₂, rfl⟩ := Inquiry.yields_bind.1 hy
    obtain ⟨rfl, rfl⟩ := Inquiry.yields_pure.1 h₂
    rw [List.append_nil]
    exact ⟨o, m, settles_of_checkRevocation h₁, rfl⟩
  · rintro ⟨o, m, hs, rfl⟩
    exact Inquiry.yields_bind.2 ⟨es, (o, m), [], hs.checkRevocation_yields,
      Inquiry.yields_pure.2 ⟨rfl, rfl⟩, (List.append_nil es).symm⟩

/-- A validation asks nothing and settles nothing, or it settles the status of a certificate that
was classified. -/
theorem validate_yields_cases {es : List Exchange} {verdict : Verdict}
    (h : (v.validate random certificate).Yields es verdict) :
    es = [] ∧ verdict.outcome.isDefinitive = false
    ∨ ∃ sub m, classifyEncoded certificate = .ok (verdict.ecosystem, verdict.holderType)
      ∧ v.registry.anchor verdict.ecosystem .sub = .ok sub ∧ verdict.method = some m
      ∧ Settles v random certificate verdict.ecosystem sub es verdict.outcome m := by
  rcases hx : classifyEncoded certificate with err | ⟨e, holder⟩
  · rw [validate_of_error hx] at h
    obtain ⟨rfl, rfl⟩ := Inquiry.yields_pure.1 h
    refine .inl ⟨rfl, ?_⟩
    cases err <;> rfl
  rcases ha : v.registry.anchor e .sub with err | sub
  · simp only [validate, hx, ha] at h
    obtain ⟨rfl, rfl⟩ := Inquiry.yields_pure.1 h
    exact .inl ⟨rfl, rfl⟩
  obtain ⟨o, m, hs, rfl⟩ := (validate_yields_of_ok hx ha).1 h
  exact .inr ⟨sub, m, rfl, ha, rfl, hs⟩

/-- A validation breaks off only while the revocation of a classified certificate is checked. -/
theorem validate_breaksOff {es : List Exchange} (h : (v.validate random certificate).BreaksOff es) :
    ∃ e holder sub, classifyEncoded certificate = .ok (e, holder)
      ∧ v.registry.anchor e .sub = .ok sub ∧ Unsettled v random certificate e sub es := by
  rcases hx : classifyEncoded certificate with err | ⟨e, holder⟩
  · rw [validate_of_error hx] at h
    exact absurd h Inquiry.not_breaksOff_pure
  rcases ha : v.registry.anchor e .sub with err | sub <;> simp only [validate, hx, ha] at h
  · exact absurd h Inquiry.not_breaksOff_pure
  rcases Inquiry.breaksOff_bind.1 h with h | ⟨_, _, _, -, h, -⟩
  · exact ⟨e, holder, sub, rfl, ha, unsettled_of_checkRevocation h⟩
  · exact absurd h Inquiry.not_breaksOff_pure

end SignerTrust.Validator
