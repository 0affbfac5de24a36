import Mathlib.Tactic.Common
import SignerTrust.Proofs.PointVisit

/-!
# The walk over distribution points

The walk over some points visits them in order, each once: every visit but the last goes on, and the
last either stops the walk, by a list that cannot be used or that names the certificate, or is that
of the last point (`Walk`).  The transcripts of a walk and their outcomes are exactly those, as long
as every reply can be read (`walk_yields_iff`); where a limit leaves no bound for reading, the walk
breaks off at the first successful reply (`walk_breaksOff_iff`).
-/

namespace SignerTrust

namespace RevocationList

/-- What points have come to after some more visits. -/
def Progress.after (p : Progress) (visits : List Visit) : Progress where
  checked := p.checked || visits.any fun v => v.list.isSome
  failed := p.failed || visits.any fun v => v.list.isNone

theorem Progress.after_nil (p : Progress) : p.after [] = p := by
  simp [after]

theorem Progress.after_cons (p : Progress) (v : Visit) (visits : List Visit) :
    p.after (v :: visits) = (p.after [v]).after visits := by
  simp [after, Bool.or_assoc]

variable [CryptoLibrary]

/-- The list that an encoding holds; if a key is given, the list is signed by it. -/
def IsListOf (key : Option Bytes) (encoding : Bytes) (l : RevocationList) : Prop :=
  decode? encoding = some l ∧ ∀ k, key = some k → l.verify k = .ok ()

section Walk

variable (settings : Settings) (route : Route) (body? : HttpReply → Option Bytes)
  (key : Option Bytes) (serial : Nat)

/-- A visit after which the walk goes on: it brought no list, or one that does not name the serial
number. -/
structure GoesOn (v : Visit) : Prop where
  proper : v.Proper settings route body?
  unlisted : ∀ encoding, v.list = some encoding →
    ∃ l, IsListOf key encoding l ∧ l.lists serial = false

/-- The walk over points, after points that have come to `start`: its exchanges and its outcome. -/
inductive Walk (start : Progress) (points : List String) : List Exchange → Outcome → Prop
  | broken {before : List Visit} {after : List String} {v : Visit} {encoding : Bytes}
      (hp : points = before.map (·.point) ++ v.point :: after)
      (hb : ∀ u ∈ before, GoesOn settings route body? key serial u)
      (hv : v.Proper settings route body?) (he : v.list = some encoding)
      (hn : ∀ l, ¬ IsListOf key encoding l) :
    Walk start points (before.flatMap (·.exchanges) ++ v.exchanges) .serverError
  | revoked {before : List Visit} {after : List String} {v : Visit} {encoding : Bytes}
      {l : RevocationList} (hp : points = before.map (·.point) ++ v.point :: after)
      (hb : ∀ u ∈ before, GoesOn settings route body? key serial u)
      (hv : v.Proper settings route body?) (he : v.list = some encoding)
      (hl : IsListOf key encoding l) (hs : l.lists serial = true) :
    Walk start points (before.flatMap (·.exchanges) ++ v.exchanges) .revoked
  | ended {visits : List Visit} (hp : points = visits.map (·.point))
      (hb : ∀ u ∈ visits, GoesOn settings route body? key serial u) :
    Walk start points (visits.flatMap (·.exchanges)) (start.after visits).outcome

/-- The walk over points up to a reply that cannot be read: all replies before it could be, and it
brought the list of a point on the web. -/
inductive CutWalk (points : List String) : List Exchange → Prop
  | cut {before : List Visit} {point : String} {after : List String} {uri : Uri}
      {reply : HttpReply} (hp : points = before.map (·.point) ++ point :: after)
      (hb : ∀ u ∈ before, GoesOn settings route body? key serial u)
      (hr : AllRead settings.network.maxResponseSize (before.flatMap (·.exchanges)))
      (hw : DistributionPoint.IsWeb point) (hu : Uri.parse? point = some uri)
      (hs : reply.isSuccess = true) :
    CutWalk points (before.flatMap (·.exchanges)
      ++ [⟨.fetch route.http ⟨.get, uri, [], []⟩, .ok reply⟩])

variable {settings route body? key serial}

theorem not_cutWalk_nil {es : List Exchange} :
    ¬ CutWalk settings route body? key serial [] es := by
  rintro ⟨hp, -⟩
  simp at hp

/-- A walk is cut at its first point, or goes on from there and is cut later. -/
theorem cutWalk_cons_iff {point : String} {points : List String} {es : List Exchange} :
    CutWalk settings route body? key serial (point :: points) es ↔
      (∃ uri reply, DistributionPoint.IsWeb point ∧ Uri.parse? point = some uri
        ∧ reply.isSuccess = true ∧ es = [⟨.fetch route.http ⟨.get, uri, [], []⟩, .ok reply⟩])
      ∨ ∃ v : Visit, v.point = point ∧ GoesOn settings route body? key serial v
        ∧ AllRead settings.network.maxResponseSize v.exchanges
        ∧ ∃ es', es = v.exchanges ++ es' ∧ CutWalk settings route body? key serial points es' := by
  constructor
  · rintro @⟨_ | ⟨v, before⟩, _, _, _, _, hp, hb, hr, hw, hu, hs⟩
    · cases hp
      exact .inl ⟨_, _, hw, hu, hs, rfl⟩
    · cases hp
      obtain ⟨hv, hb⟩ := List.forall_mem_cons.1 hb
      rw [List.flatMap_cons, allRead_append] at hr
      exact .inr ⟨v, rfl, hv, hr.1, _, by rw [List.flatMap_cons, List.append_assoc],
        .cut rfl hb hr.2 hw hu hs⟩
  · rintro (⟨uri, reply, hw, hu, hs, rfl⟩ | ⟨v, rfl, hv, hv', _, rfl, hp, hb, hr, hw, hu, hs⟩)
    · have hnone : ∀ u ∈ ([] : List Visit), GoesOn settings route body? key serial u :=
        List.forall_mem_nil _
      exact .cut rfl hnone (allRead_nil _) hw hu hs
    · rw [← List.append_assoc, ← List.flatMap_cons]
      refine .cut (by rw [hp]; rfl) (List.forall_mem_cons.2 ⟨hv, hb⟩) ?_ hw hu hs
      rw [List.flatMap_cons, allRead_append]
      exact ⟨hv', hr⟩

theorem walk_nil_iff {start : Progress} {es : List Exchange} {o : Outcome} :
    Walk settings route body? key serial start [] es o ↔ es = [] ∧ o = start.outcome := by
  constructor
  · intro h
    rcases h with ⟨hp, -⟩ | ⟨hp, -⟩ | @⟨visits, hp, -⟩
    · simp at hp
    · simp at hp
    · obtain rfl : visits = [] := by simpa using hp.symm
      simp [Progress.after_nil]
  · rintro ⟨rfl, rfl⟩
    have h : Walk settings route body? key serial start [] _ _ :=
      .ended (by rfl) (List.forall_mem_nil _)
    rwa [Progress.after_nil] at h

theorem Walk.cons {start : Progress} {points : List String} {es : List Exchange} {o : Outcome}
    {v : Visit} (hv : GoesOn settings route body? key serial v)
    (h : Walk settings route body? key serial (start.after [v]) points es o) :
    Walk settings route body? key serial start (v.point :: points) (v.exchanges ++ es) o := by
  cases h with
  | @broken before after w encoding hp hb hw he hn =>
    rw [← List.append_assoc, ← List.flatMap_cons]
    exact .broken (by rw [hp]; rfl) (List.forall_mem_cons.2 ⟨hv, hb⟩) hw he hn
  | @revoked before after w encoding l hp hb hw he hl hs =>
    rw [← List.append_assoc, ← List.flatMap_cons]
    exact .revoked (by rw [hp]; rfl) (List.forall_mem_cons.2 ⟨hv, hb⟩) hw he hl hs
  | @ended visits hp hb =>
    rw [← List.flatMap_cons, ← Progress.after_cons]
    exact .ended (by rw [hp]; rfl) (List.forall_mem_cons.2 ⟨hv, hb⟩)

/-- A walk over some points stops at the first of them or goes on over the others. -/
theorem walk_cons_iff {start : Progress} {point : String} {points : List String}
    {es : List Exchange} {o : Outcome} :
    Walk settings route body? key serial start (point :: points) es o ↔
      ∃ v : Visit, v.point = point ∧ v.Proper settings route body? ∧
        ((∃ encoding, v.list = some encoding ∧ (∀ l, ¬ IsListOf key encoding l)
            ∧ es = v.exchanges ∧ o = .serverError)
        ∨ (∃ encoding l, v.list = some encoding ∧ IsListOf key encoding l
            ∧ l.lists serial = true ∧ es = v.exchanges ∧ o = .revoked)
        ∨ GoesOn settings route body? key serial v ∧ ∃ es', es = v.exchanges ++ es'
            ∧ Walk settings route body? key serial (start.after [v]) points es' o) := by
  constructor
  · intro h
    cases h with
    | @broken before after w encoding hp hb hw he hn =>
      rcases before with _ | ⟨v, before⟩
      · cases hp
        exact ⟨w, rfl, hw, .inl ⟨encoding, he, hn, rfl, rfl⟩⟩
      · cases hp
        obtain ⟨hv, hb⟩ := List.forall_mem_cons.1 hb
        exact ⟨v, rfl, hv.proper, .inr (.inr ⟨hv, _, by rw [List.flatMap_cons, List.append_assoc],
          .broken rfl hb hw he hn⟩)⟩
    | @revoked before after w encoding l hp hb hw he hl hs =>
      rcases before with _ | ⟨v, before⟩
      · cases hp
        exact ⟨w, rfl, hw, .inr (.inl ⟨encoding, l, he, hl, hs, rfl, rfl⟩)⟩
      · cases hp
        obtain ⟨hv, hb⟩ := List.forall_mem_cons.1 hb
        exact ⟨v, rfl, hv.proper, .inr (.inr ⟨hv, _, by rw [List.flatMap_cons, List.append_assoc],
          .revoked rfl hb hw he hl hs⟩)⟩
    | @ended visits hp hb =>
      rcases visits with _ | ⟨v, visits⟩
      · cases hp
      · cases hp
        obtain ⟨hv, hb⟩ := List.forall_mem_cons.1 hb
        refine ⟨v, rfl, hv.proper, .inr (.inr ⟨hv, _, List.flatMap_cons .., ?_⟩)⟩
        rw [Progress.after_cons start v visits]
        exact .ended rfl hb
  · rintro ⟨v, rfl, hv, ⟨encoding, he, hn, rfl, rfl⟩ | ⟨encoding, l, he, hl, hs, rfl, rfl⟩
      | ⟨hg, es', rfl, h⟩⟩
    · exact .broken (by rfl) (List.forall_mem_nil _) hv he hn
    · exact .revoked (by rfl) (List.forall_mem_nil _) hv he hl hs
    · exact h.cons hg

end Walk

theorem examine_of_isListOf {key : Option Bytes} {encoding : Bytes} {l : RevocationList}
    (h : IsListOf key encoding l) (serial : Nat) :
    examine key serial encoding = if l.lists serial then .listed else .notListed := by
  obtain ⟨hd, hk⟩ := h
  unfold examine
  rw [hd]
  rcases key with _ | k
  · simp
  · simp [hk k rfl]

theorem examine_of_not {key : Option Bytes} {encoding : Bytes}
    (h : ∀ l, ¬ IsListOf key encoding l) (serial : Nat) :
    examine key serial encoding = .unusable := by
  unfold examine
  rcases hd : decode? encoding with _ | l
  · rfl
  rcases key with _ | k
  · exact absurd ⟨hd, fun k hk => by cases hk⟩ (h l)
  · have hv : l.verify k ≠ .ok () := fun hv =>
      h l ⟨hd, fun k' hk => by cases hk; exact hv⟩
    rcases he : l.verify k with e | ⟨⟩
    · simp
    · exact absurd he hv

theorem examine_eq_unusable_iff {key : Option Bytes} {serial : Nat} {encoding : Bytes} :
    examine key serial encoding = .unusable ↔ ∀ l, ¬ IsListOf key encoding l := by
  constructor
  · intro h l hl
    rw [examine_of_isListOf hl] at h
    split_ifs at h
  · intro h
    exact examine_of_not h serial

theorem exists_isListOf {key : Option Bytes} {serial : Nat} {encoding : Bytes}
    (h : examine key serial encoding ≠ .unusable) : ∃ l, IsListOf key encoding l := by
  by_contra hn
  exact h (examine_of_not (not_exists.1 hn) serial)

theorem examine_eq_listed_iff {key : Option Bytes} {serial : Nat} {encoding : Bytes} :
    examine key serial encoding = .listed ↔
      ∃ l, IsListOf key encoding l ∧ l.lists serial = true := by
  constructor
  · intro h
    obtain ⟨l, hl⟩ := exists_isListOf (by rw [h]; decide)
    rw [examine_of_isListOf hl] at h
    split_ifs at h with hs
    exact ⟨l, hl, hs⟩
  · rintro ⟨l, hl, hs⟩
    rw [examine_of_isListOf hl, if_pos hs]

theorem examine_eq_notListed_iff {key : Option Bytes} {serial : Nat} {encoding : Bytes} :
    examine key serial encoding = .notListed ↔
      ∃ l, IsListOf key encoding l ∧ l.lists serial = false := by
  constructor
  · intro h
    obtain ⟨l, hl⟩ := exists_isListOf (by rw [h]; decide)
    rw [examine_of_isListOf hl] at h
    split_ifs at h with hs
    exact ⟨l, hl, by simpa using hs⟩
  · rintro ⟨l, hl, hs⟩
    rw [examine_of_isListOf hl, hs]
    rfl

section Steps

variable {settings : Settings} {route : Route}

/-- How the walk goes on after a visit that brought a list or none. -/
def next (settings : Settings) (route : Route) (key : Option Bytes) (serial : Nat)
    (progress : Progress) (rest : List String) : Option Bytes → Inquiry Outcome
  | none => walk settings route key serial { progress with failed := true } rest
  | some encoding =>
    match examine key serial encoding with
    | .unusable => pure .serverError
    | .listed => pure .revoked
    | .notListed => walk settings route key serial { progress with checked := true } rest

variable {key : Option Bytes} {serial : Nat}

theorem walk_cons {progress : Progress} {point : String} {rest : List String}
    (h : ¬ "ocsp".toList <:+: point.toList) :
    walk settings route key serial progress (point :: rest) = download settings route point >>=
      fun r => next settings route key serial progress rest r.toOption := by
  rw [walk, if_neg (DistributionPoint.isResponder_iff.not.2 h)]
  congr 1
  funext r
  rcases r with e | encoding
  · rfl
  · rcases hx : examine key serial encoding <;> simp only [next, Except.toOption, hx]

theorem walk_usable : ∀ (points : List String) (progress : Progress),
    walk settings route key serial progress points
      = walk settings route key serial progress (DistributionPoint.usable points)
  | [], _ => rfl
  | point :: rest, progress => by
    have ih := walk_usable rest
    by_cases h : "ocsp".toList <:+: point.toList
    · rw [walk, if_pos (DistributionPoint.isResponder_iff.2 h), ih, DistributionPoint.usable,
        DistributionPoint.usable, List.filter_cons_of_neg (by simpa using h)]
    · rw [DistributionPoint.usable, List.filter_cons_of_pos (by simpa using h), walk_cons h,
        walk_cons h]
      congr 1
      funext r
      rcases r.toOption with _ | encoding
      · exact ih _
      · simp only [next]
        rw [ih]
        rfl

theorem next_of_broken {progress : Progress} {rest : List String} {encoding : Bytes}
    (h : ∀ l, ¬ IsListOf key encoding l) :
    next settings route key serial progress rest (some encoding) = pure .serverError := by
  rw [next, examine_eq_unusable_iff.2 h]

theorem next_of_listed {progress : Progress} {rest : List String} {encoding : Bytes}
    {l : RevocationList} (h : IsListOf key encoding l) (hs : l.lists serial = true) :
    next settings route key serial progress rest (some encoding) = pure .revoked := by
  rw [next, examine_eq_listed_iff.2 ⟨l, h, hs⟩]

theorem next_of_goesOn {body? : HttpReply → Option Bytes} {progress : Progress}
    {rest : List String} {v : Visit} (h : GoesOn settings route body? key serial v) :
    next settings route key serial progress rest v.list
      = walk settings route key serial (progress.after [v]) rest := by
  rcases hl : v.list with _ | encoding
  · rw [next, Progress.after, List.any_cons, List.any_cons, hl]
    simp
  · rw [next, examine_eq_notListed_iff.2 (h.unlisted encoding hl), Progress.after, List.any_cons,
      List.any_cons, hl]
    simp

/-- A visit brings a list that cannot be used, one that names the number, or lets the walk go on. -/
theorem proper_cases {body? : HttpReply → Option Bytes} {v : Visit}
    (hv : v.Proper settings route body?) :
    (∃ encoding, v.list = some encoding ∧ ∀ l, ¬ IsListOf key encoding l)
    ∨ (∃ encoding l, v.list = some encoding ∧ IsListOf key encoding l ∧ l.lists serial = true)
    ∨ GoesOn settings route body? key serial v := by
  rcases hl : v.list with _ | encoding
  · exact .inr (.inr ⟨hv, fun _ he => by rw [hl] at he; cases he⟩)
  rcases hx : examine key serial encoding
  · exact .inl ⟨encoding, rfl, examine_eq_unusable_iff.1 hx⟩
  · obtain ⟨l, hi, hs⟩ := examine_eq_listed_iff.1 hx
    exact .inr (.inl ⟨encoding, l, rfl, hi, hs⟩)
  · refine .inr (.inr ⟨hv, fun _ he => ?_⟩)
    cases hl.symm.trans he
    exact examine_eq_notListed_iff.1 hx

theorem walk_yields_iff : ∀ {points : List String} {progress : Progress} {es : List Exchange}
    {o : Outcome}, (∀ p ∈ points, ¬ "ocsp".toList <:+: p.toList) →
    ((walk settings route key serial progress points).Yields es o ↔
      Walk settings route (HttpReply.received? settings.network.maxResponseSize) key serial
        progress points es o ∧ AllRead settings.network.maxResponseSize es)
  | [], progress, es, o, _ => by
    rw [walk_nil_iff, walk, Inquiry.yields_pure, iff_self_and]
    rintro ⟨rfl, -⟩
    exact allRead_nil _
  | point :: rest, progress, es, o, hp => by
    obtain ⟨hp, hrest⟩ := List.forall_mem_cons.1 hp
    rw [walk_cons hp, Inquiry.yields_bind, walk_cons_iff]
    constructor
    · rintro ⟨es₁, r, es₂, h₁, h₂, rfl⟩
      obtain ⟨hv, hr⟩ := download_yields.1 ⟨r, h₁, rfl⟩
      obtain ⟨encoding, he, hn⟩ | ⟨encoding, l, he, hi, hs⟩ | hg := proper_cases hv
      · rw [show r.toOption = some encoding from he, next_of_broken hn] at h₂
        obtain ⟨rfl, rfl⟩ := Inquiry.yields_pure.1 h₂
        rw [List.append_nil]
        exact ⟨⟨_, rfl, hv, .inl ⟨encoding, he, hn, rfl, rfl⟩⟩, hr⟩
      · rw [show r.toOption = some encoding from he, next_of_listed hi hs] at h₂
        obtain ⟨rfl, rfl⟩ := Inquiry.yields_pure.1 h₂
        rw [List.append_nil]
        exact ⟨⟨_, rfl, hv, .inr (.inl ⟨encoding, l, he, hi, hs, rfl, rfl⟩)⟩, hr⟩
      · obtain ⟨h, hr'⟩ := (walk_yields_iff hrest).1 (next_of_goesOn hg ▸ h₂)
        exact ⟨⟨_, rfl, hv, .inr (.inr ⟨hg, es₂, rfl, h⟩)⟩, allRead_append.2 ⟨hr, hr'⟩⟩
    · rintro ⟨⟨⟨_, es₁, list⟩, rfl, hv, h⟩, hr⟩
      obtain ⟨encoding, he, hn, rfl, rfl⟩ | ⟨encoding, l, he, hi, hs, rfl, rfl⟩ | ⟨hg, es₂, rfl, h⟩
        := h
      · obtain ⟨r, h₁, rfl⟩ := download_yields.2 ⟨hv, hr⟩
        refine ⟨_, r, [], h₁, ?_, (List.append_nil _).symm⟩
        rw [show r.toOption = some encoding from he, next_of_broken hn]
        exact .done _
      · obtain ⟨r, h₁, rfl⟩ := download_yields.2 ⟨hv, hr⟩
        refine ⟨_, r, [], h₁, ?_, (List.append_nil _).symm⟩
        rw [show r.toOption = some encoding from he, next_of_listed hi hs]
        exact .done _
      · obtain ⟨hr, hr'⟩ := allRead_append.1 hr
        obtain ⟨r, h₁, rfl⟩ := download_yields.2 ⟨hv, hr⟩
        exact ⟨_, r, es₂, h₁, next_of_goesOn hg ▸ (walk_yields_iff hrest).2 ⟨h, hr'⟩, rfl⟩

/-- A walk breaks off only where there is no bound for reading the bodies of replies. -/
theorem walk_breaksOff_iff : ∀ {points : List String} {progress : Progress} {es : List Exchange},
    (∀ p ∈ points, ¬ "ocsp".toList <:+: p.toList) →
    ((walk settings route key serial progress points).BreaksOff es ↔
      settings.network.maxResponseSize = noLimit ∧
        CutWalk settings route (HttpReply.received? settings.network.maxResponseSize) key serial
          points es)
  | [], progress, es, _ => by
    rw [walk]
    exact iff_of_false Inquiry.not_breaksOff_pure fun h => not_cutWalk_nil h.2
  | point :: rest, progress, es, hp => by
    obtain ⟨hp, hrest⟩ := List.forall_mem_cons.1 hp
    rw [walk_cons hp, Inquiry.breaksOff_bind, download_breaksOff, cutWalk_cons_iff, and_or_left]
    refine or_congr_right ⟨?_, ?_⟩
    · rintro ⟨es₁, r, es₂, h₁, h₂, rfl⟩
      obtain ⟨hv, hr⟩ := download_yields.1 ⟨r, h₁, rfl⟩
      obtain ⟨encoding, he, hn⟩ | ⟨encoding, l, he, hi, hs⟩ | hg := proper_cases hv
      · rw [show r.toOption = some encoding from he, next_of_broken hn] at h₂
        exact absurd h₂ Inquiry.not_breaksOff_pure
      · rw [show r.toOption = some encoding from he, next_of_listed hi hs] at h₂
        exact absurd h₂ Inquiry.not_breaksOff_pure
      · obtain ⟨hl, h⟩ := (walk_breaksOff_iff hrest).1 (next_of_goesOn hg ▸ h₂)
        exact ⟨hl, _, rfl, hg, hr, es₂, rfl, h⟩
    · rintro ⟨hl, ⟨_, es₁, list⟩, rfl, hg, hr, es₂, rfl, h⟩
      obtain ⟨r, h₁, rfl⟩ := download_yields.2 ⟨hg.proper, hr⟩
      exact ⟨_, r, es₂, h₁, next_of_goesOn hg ▸ (walk_breaksOff_iff hrest).2 ⟨hl, h⟩, rfl⟩

end Steps

end RevocationList

end SignerTrust
