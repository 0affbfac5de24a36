import SignerTrust.Network.Inquiry

/-!
# Transcripts

A run of an inquiry is told by its result and its transcript: the questions that were asked with the
answers that came, in order.  `Yields` says which transcripts lead an inquiry to which result, and
`BreaksOff` which ones lead it to none, whatever servers gave the answers; every run is one of those
(`yields_transcript`, `breaksOff_transcript`).  What holds of all transcripts that an inquiry yields
therefore holds of its runs against all servers, and the transcripts of an inquiry in steps are
those of its steps joined (`yields_bind`, `breaksOff_bind`).
-/

namespace SignerTrust

/-- A question with the answer that it got. -/
abbrev Exchange := (q : Question) × q.Answer

namespace Inquiry

variable {α β σ : Type}

/-- The questions of a run with their answers, in order. -/
def transcript (servers : (q : Question) → σ → q.Answer × σ) : Inquiry α → σ → List Exchange
  | done _, _ => []
  | breakOff, _ => []
  | ask q k, s => ⟨q, (servers q s).1⟩ :: transcript servers (k (servers q s).1) (servers q s).2

/-- With the answers of a transcript an inquiry asks its questions and comes to a result. -/
inductive Yields : Inquiry α → List Exchange → α → Prop
  | done (a : α) : Yields (.done a) [] a
  | ask {q : Question} {k : q.Answer → Inquiry α} {answer : q.Answer} {es : List Exchange} {a : α}
      (h : Yields (k answer) es a) : Yields (.ask q k) (⟨q, answer⟩ :: es) a

/-- With the answers of a transcript an inquiry asks its questions and breaks off. -/
inductive BreaksOff : Inquiry α → List Exchange → Prop
  | now : BreaksOff .breakOff []
  | ask {q : Question} {k : q.Answer → Inquiry α} {answer : q.Answer} {es : List Exchange}
      (h : BreaksOff (k answer) es) : BreaksOff (.ask q k) (⟨q, answer⟩ :: es)

theorem run_asked (servers : (q : Question) → σ → q.Answer × σ) :
    ∀ (i : Inquiry α) (s : σ), (i.run servers s).2.1 = (i.transcript servers s).map (·.1)
  | done _, _ => rfl
  | breakOff, _ => rfl
  | ask q k, s => by
    have ih := run_asked servers (k (servers q s).1) (servers q s).2
    simp only [run, transcript, List.map_cons, ih]

/-- Every run that comes to a result does so by the answers that the servers gave. -/
theorem yields_transcript (servers : (q : Question) → σ → q.Answer × σ) {a : α} :
    ∀ {i : Inquiry α} {s : σ}, (i.run servers s).1 = some a →
      i.Yields (i.transcript servers s) a
  | done b, _, h => Option.some.inj h ▸ .done b
  | ask _ _, _, h => .ask (yields_transcript servers h)

theorem breaksOff_transcript (servers : (q : Question) → σ → q.Answer × σ) :
    ∀ {i : Inquiry α} {s : σ}, (i.run servers s).1 = none →
      i.BreaksOff (i.transcript servers s)
  | breakOff, _, _ => .now
  | ask _ _, _, h => .ask (breaksOff_transcript servers h)

/-- An inquiry that no transcript leads to break off comes to a result in every run. -/
theorem exists_run_eq (servers : (q : Question) → σ → q.Answer × σ) {i : Inquiry α}
    (h : ∀ es, ¬ i.BreaksOff es) (s : σ) : ∃ a, (i.run servers s).1 = some a :=
  Option.ne_none_iff_exists'.1 fun hn => h _ (breaksOff_transcript servers hn)

@[simp] theorem yields_pure {a b : α} {es : List Exchange} :
    (pure a : Inquiry α).Yields es b ↔ es = [] ∧ b = a := by
  constructor
  · intro h
    cases h
    exact ⟨rfl, rfl⟩
  · rintro ⟨rfl, rfl⟩
    exact .done b

theorem yields_ask {q : Question} {k : q.Answer → Inquiry α} {es : List Exchange} {a : α} :
    (ask q k).Yields es a ↔ ∃ answer es', es = ⟨q, answer⟩ :: es' ∧ (k answer).Yields es' a := by
  constructor
  · intro h
    cases h with
    | ask h => exact ⟨_, _, rfl, h⟩
  · rintro ⟨answer, es', rfl, h⟩
    exact .ask h

/-- The transcripts of an inquiry that goes on with a result are those of its two parts, joined. -/
@[simp] theorem yields_bind {f : α → Inquiry β} {b : β} :
    ∀ {i : Inquiry α} {es : List Exchange}, (i >>= f).Yields es b ↔
      ∃ es₁ a es₂, i.Yields es₁ a ∧ (f a).Yields es₂ b ∧ es = es₁ ++ es₂
  | done a, es => by
    constructor
    · intro h
      exact ⟨[], a, es, .done a, h, rfl⟩
    · rintro ⟨es₁, a', es₂, h₁, h₂, rfl⟩
      cases h₁
      exact h₂
  | breakOff, es => by
    constructor
    · intro h
      cases h
    · rintro ⟨es₁, a', es₂, h₁, h₂, rfl⟩
      cases h₁
  | ask q k, es => by
    constructor
    · intro h
      obtain ⟨answer, es', rfl, h'⟩ := yields_ask.1 h
      obtain ⟨es₁, a, es₂, h₁, h₂, rfl⟩ := (yields_bind (i := k answer)).1 h'
      exact ⟨⟨q, answer⟩ :: es₁, a, es₂, .ask h₁, h₂, rfl⟩
    · rintro ⟨es₁, a, es₂, h₁, h₂, rfl⟩
      obtain ⟨answer, es', rfl, h'⟩ := yields_ask.1 h₁
      exact .ask ((yields_bind (i := k answer)).2 ⟨es', a, es₂, h', h₂, rfl⟩)

@[simp] theorem not_breaksOff_pure {a : α} {es : List Exchange} :
    ¬ (pure a : Inquiry α).BreaksOff es := nofun

theorem breaksOff_ask {q : Question} {k : q.Answer → Inquiry α} {es : List Exchange} :
    (ask q k).BreaksOff es ↔ ∃ answer es', es = ⟨q, answer⟩ :: es' ∧ (k answer).BreaksOff es' := by
  constructor
  · intro h
    cases h with
    | ask h => exact ⟨_, _, rfl, h⟩
  · rintro ⟨answer, es', rfl, h⟩
    exact .ask h

/-- An inquiry breaks off before it goes on with a result, or after it. -/
@[simp] theorem breaksOff_bind {f : α → Inquiry β} : ∀ {i : Inquiry α} {es : List Exchange},
    (i >>= f).BreaksOff es ↔ i.BreaksOff es
      ∨ ∃ es₁ a es₂, i.Yields es₁ a ∧ (f a).BreaksOff es₂ ∧ es = es₁ ++ es₂
  | done a, es => by
    constructor
    · intro h
      exact .inr ⟨[], a, es, .done a, h, rfl⟩
    · rintro (h | ⟨es₁, a', es₂, h₁, h₂, rfl⟩)
      · exact absurd h not_breaksOff_pure
      · cases h₁
        exact h₂
  | breakOff, es => by
    constructor
    · intro h
      cases h
      exact .inl .now
    · rintro (h | ⟨es₁, a', es₂, h₁, h₂, rfl⟩)
      · cases h
        exact .now
      · cases h₁
  | ask q k, es => by
    constructor
    · intro h
      obtain ⟨answer, es', rfl, h'⟩ := breaksOff_ask.1 h
      rcases (breaksOff_bind (i := k answer)).1 h' with h' | ⟨es₁, a, es₂, h₁, h₂, rfl⟩
      · exact .inl (.ask h')
      · exact .inr ⟨⟨q, answer⟩ :: es₁, a, es₂, .ask h₁, h₂, rfl⟩
    · rintro (h | ⟨es₁, a, es₂, h₁, h₂, rfl⟩)
      · obtain ⟨answer, es', rfl, h'⟩ := breaksOff_ask.1 h
        exact .ask ((breaksOff_bind (i := k answer)).2 (.inl h'))
      · obtain ⟨answer, es', rfl, h'⟩ := yields_ask.1 h₁
        exact .ask ((breaksOff_bind (i := k answer)).2 (.inr ⟨es', a, es₂, h', h₂, rfl⟩))

@[simp] theorem yields_ofOption {o : Option α} {es : List Exchange} {a : α} :
    (ofOption o).Yields es a ↔ es = [] ∧ o = some a := by
  cases o with
  | none => exact ⟨nofun, nofun⟩
  | some b => rw [Option.some.injEq, eq_comm (a := b)]; exact yields_pure

@[simp] theorem breaksOff_ofOption {o : Option α} {es : List Exchange} :
    (ofOption o).BreaksOff es ↔ es = [] ∧ o = none := by
  cases o with
  | none =>
    refine ⟨fun h => ?_, fun h => h.1 ▸ .now⟩
    cases h
    exact ⟨rfl, rfl⟩
  | some b => exact ⟨nofun, nofun⟩

theorem yields_fetch_bind {client : ServerTrust} {request : HttpRequest} {es : List Exchange}
    {f : Except HttpError HttpReply → Inquiry β} {b : β} :
    (fetch client request >>= f).Yields es b
      ↔ ∃ reply es', es = ⟨.fetch client request, reply⟩ :: es' ∧ (f reply).Yields es' b :=
  yields_ask

theorem breaksOff_fetch_bind {client : ServerTrust} {request : HttpRequest} {es : List Exchange}
    {f : Except HttpError HttpReply → Inquiry β} :
    (fetch client request >>= f).BreaksOff es
      ↔ ∃ reply es', es = ⟨.fetch client request, reply⟩ :: es' ∧ (f reply).BreaksOff es' :=
  breaksOff_ask

theorem yields_lookUp_bind {client : ServerTrust} {url attributeName : String}
    {es : List Exchange} {f : Except DirectoryError Bytes → Inquiry β} {b : β} :
    (lookUp client url attributeName >>= f).Yields es b
      ↔ ∃ value es', es = ⟨.lookUp client url attributeName, value⟩ :: es'
        ∧ (f value).Yields es' b :=
  yields_ask

theorem breaksOff_lookUp_bind {client : ServerTrust} {url attributeName : String}
    {es : List Exchange} {f : Except DirectoryError Bytes → Inquiry β} :
    (lookUp client url attributeName >>= f).BreaksOff es
      ↔ ∃ value es', es = ⟨.lookUp client url attributeName, value⟩ :: es'
        ∧ (f value).BreaksOff es' :=
  breaksOff_ask

end Inquiry

end SignerTrust
