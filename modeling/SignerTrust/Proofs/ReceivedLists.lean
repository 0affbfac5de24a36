import SignerTrust.Proofs.ListCheck

/-!
# What the outcome of a walk rests on

The exchanges of a walk tell which lists it received (`Exchange.list?`).  If the walk comes to an
outcome that settles the status of a certificate, all of them can be used, and one names the
certificate, or there is one and none does (`Walk.restsOnLists`).
-/

namespace SignerTrust

/-- The revocation list that an exchange brought, if it brought one: the body of the reply to a
fetching request, or the value of a directory. -/
def Exchange.list? (limit : UInt64) : Exchange → Option Bytes
  | ⟨.fetch _ request, reply⟩ =>
    if request.method = .get then reply.toOption.bind (HttpReply.received? limit) else none
  | ⟨.lookUp _ _ _, value⟩ => value.toOption.filter (· ≠ [])

theorem Visit.Proper.list_eq {settings : Settings} {route : Route} {limit : UInt64} {v : Visit}
    (h : v.Proper settings route (HttpReply.received? limit)) {e : Exchange}
    (he : e ∈ v.exchanges) : e.list? limit = v.list := by
  cases h with
  | fetched hw hu reply =>
    obtain rfl := List.mem_singleton.1 he
    rfl
  | lookedUp hd value =>
    obtain rfl := List.mem_singleton.1 he
    rfl
  | unaddressed hw hu => cases he
  | passed hw hd => cases he

theorem Visit.Proper.exists_exchange {settings : Settings} {route : Route}
    {body? : HttpReply → Option Bytes} {v : Visit} (h : v.Proper settings route body?)
    {encoding : Bytes} (hl : v.list = some encoding) : ∃ e, e ∈ v.exchanges := by
  cases h with
  | fetched hw hu reply => exact ⟨_, List.mem_singleton_self _⟩
  | lookedUp hd value => exact ⟨_, List.mem_singleton_self _⟩
  | unaddressed hw hu => cases hl
  | passed hw hd => cases hl

namespace RevocationList

variable [CryptoLibrary]

/-- What an outcome about a serial number rests on if revocation lists settled it: all that were
received can be used and are signed by the key, and one names the number, or there is one and none
does. -/
structure RestsOnLists (limit : UInt64) (key : Bytes) (serial : Nat) (es : List Exchange)
    (o : Outcome) : Prop where
  authentic : ∀ e ∈ es, ∀ encoding, e.list? limit = some encoding →
    ∃ l, IsListOf (some key) encoding l ∧ (o = .valid → l.lists serial = false)
  listed : o = .revoked → ∃ e ∈ es, ∃ encoding l, e.list? limit = some encoding
    ∧ IsListOf (some key) encoding l ∧ l.lists serial = true
  received : ∃ e ∈ es, ∃ encoding, e.list? limit = some encoding

theorem RestsOnLists.append_left {limit : UInt64} {key : Bytes} {serial : Nat}
    {es₁ es₂ : List Exchange} {o : Outcome} (hn : ∀ e ∈ es₁, e.list? limit = none)
    (h : RestsOnLists limit key serial es₂ o) : RestsOnLists limit key serial (es₁ ++ es₂) o := by
  refine ⟨fun e he encoding hl => ?_, fun hr => ?_, ?_⟩
  · rcases List.mem_append.1 he with he | he
    · rw [hn e he] at hl
      cases hl
    · exact h.authentic e he encoding hl
  · obtain ⟨e, he, h⟩ := h.listed hr
    exact ⟨e, List.mem_append_right _ he, h⟩
  · obtain ⟨e, he, h⟩ := h.received
    exact ⟨e, List.mem_append_right _ he, h⟩

section Evidence

variable {settings : Settings} {route : Route} {limit : UInt64} {key : Bytes} {serial : Nat}

theorem GoesOn.authentic {v : Visit}
    (hv : GoesOn settings route (HttpReply.received? limit) (some key) serial v) {e : Exchange}
    (he : e ∈ v.exchanges) {encoding : Bytes} (hl : e.list? limit = some encoding) :
    ∃ l, IsListOf (some key) encoding l ∧ l.lists serial = false :=
  hv.unlisted encoding (hv.proper.list_eq he ▸ hl)

omit [CryptoLibrary] in
theorem Progress.exists_list {visits : List Visit} {o : Outcome} (ho : o = .valid ∨ o = .revoked)
    (h : o = (({} : Progress).after visits).outcome) :
    ∃ v ∈ visits, ∃ encoding, v.list = some encoding := by
  simp only [outcome, after, Bool.false_or] at h
  split_ifs at h with hs hn
  · obtain ⟨v, hv, hl⟩ := List.any_eq_true.1 hs
    exact ⟨v, hv, Option.isSome_iff_exists.1 hl⟩
  · subst h
    rcases ho with ho | ho <;> cases ho
  · subst h
    rcases ho with ho | ho <;> cases ho

theorem Walk.restsOnLists {points : List String} {es : List Exchange} {o : Outcome}
    (h : Walk settings route (HttpReply.received? limit) (some key) serial {} points es o)
    (ho : o = .valid ∨ o = .revoked) : RestsOnLists limit key serial es o := by
  cases h with
  | broken hp hb hv he hn => rcases ho with ho | ho <;> cases ho
  | @revoked before after v encoding l hp hb hv he hl hs =>
    obtain ⟨e, hev⟩ := hv.exists_exchange he
    have hm : e ∈ before.flatMap (·.exchanges) ++ v.exchanges := List.mem_append_right _ hev
    have hel : e.list? limit = some encoding := (hv.list_eq hev).trans he
    refine ⟨fun e' he' encoding' hl' => ?_, fun _ => ⟨e, hm, encoding, l, hel, hl, hs⟩,
      ⟨e, hm, encoding, hel⟩⟩
    rcases List.mem_append.1 he' with he' | he'
    · obtain ⟨u, hu, he'⟩ := List.mem_flatMap.1 he'
      obtain ⟨l', hl', -⟩ := (hb u hu).authentic he' hl'
      exact ⟨l', hl', fun hv => by cases hv⟩
    · rw [hv.list_eq he', he] at hl'
      cases hl'
      exact ⟨l, hl, fun hv => by cases hv⟩
  | @ended visits hp hb =>
    obtain ⟨v, hv, encoding, he⟩ := Progress.exists_list ho rfl
    obtain ⟨e, hev⟩ := (hb v hv).proper.exists_exchange he
    have hel : e.list? limit = some encoding := ((hb v hv).proper.list_eq hev).trans he
    refine ⟨fun e' he' encoding' hl' => ?_, fun hr => ?_,
      ⟨e, List.mem_flatMap.2 ⟨v, hv, hev⟩, encoding, hel⟩⟩
    · obtain ⟨u, hu, he'⟩ := List.mem_flatMap.1 he'
      obtain ⟨l, hl, hs⟩ := (hb u hu).authentic he' hl'
      exact ⟨l, hl, fun _ => hs⟩
    · simp only [Progress.outcome] at hr
      split_ifs at hr

end Evidence

end RevocationList

end SignerTrust
