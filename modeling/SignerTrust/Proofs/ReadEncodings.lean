import SignerTrust.Proofs.QuestionOrder

/-!
# How long the encodings are that a check reads

`checkExamining` is the check of lists with the encodings that it examines, and `checkInterpreting`
the check with a responder with those that it interprets; without them they are the checks
themselves.  Both tell the encodings also where the check breaks off.  What a reply brings is within
the limit.  The value of a directory is examined however long it is: a check of lists keeps within
the limit against all servers exactly if it has no point in a directory
(`check_reads_within_limit`).
-/

namespace SignerTrust

namespace Inquiry

variable {α β γ σ : Type}

theorem bind_pure' : ∀ x : Inquiry α, x.bind .done = x
  | done a => rfl
  | breakOff => rfl
  | ask q k => by
    have ih : (fun answer => (k answer).bind .done) = k :=
      funext fun answer => bind_pure' (k answer)
    simp only [Inquiry.bind, ih]

theorem bind_assoc' (f : α → Inquiry β) (g : β → Inquiry γ) :
    ∀ x : Inquiry α, (x.bind f).bind g = x.bind fun a => (f a).bind g
  | done a => rfl
  | breakOff => rfl
  | ask q k => by
    have ih : (fun answer => ((k answer).bind f).bind g)
        = fun answer => (k answer).bind fun a => (f a).bind g :=
      funext fun answer => bind_assoc' f g (k answer)
    simp only [Inquiry.bind, ih]

instance : LawfulMonad Inquiry :=
  LawfulMonad.mk' Inquiry (fun x => bind_pure' x) (fun _ _ => rfl) (fun x f g => bind_assoc' f g x)

/-- The inquiry with its result, if it comes to one, and without one where it breaks off. -/
def attempt : Inquiry α → Inquiry (Option α)
  | done a => done (some a)
  | breakOff => done none
  | ask q k => ask q fun answer => attempt (k answer)

theorem attempt_bind (f : α → Inquiry β) : ∀ x : Inquiry α,
    (x.attempt >>= fun o => ofOption o >>= f) = x >>= f
  | done _ => rfl
  | breakOff => rfl
  | ask q k => congrArg (ask q) (funext fun answer => attempt_bind f (k answer))

theorem run_attempt (servers : (q : Question) → σ → q.Answer × σ) : ∀ (x : Inquiry α) (s : σ),
    x.attempt.run servers s = (some (x.run servers s).1, (x.run servers s).2)
  | done _, _ => rfl
  | breakOff, _ => rfl
  | ask q k, s => by
    simp only [attempt, run, run_attempt servers (k (servers q s).1)]

theorem yields_of_attempt {a : α} : ∀ {x : Inquiry α} {es : List Exchange},
    x.attempt.Yields es (some a) → x.Yields es a
  | done a, es, h => by
    obtain ⟨rfl, ha⟩ := yields_pure.1 h
    cases ha
    exact .done a
  | breakOff, es, h => by
    obtain ⟨-, ha⟩ := yields_pure.1 h
    cases ha
  | ask q k, es, h => by
    obtain ⟨answer, es', rfl, h'⟩ := yields_ask.1 h
    exact .ask (yields_of_attempt h')

theorem not_breaksOff_attempt : ∀ {x : Inquiry α} {es : List Exchange}, ¬ x.attempt.BreaksOff es
  | done _, _ | breakOff, _ => not_breaksOff_pure
  | ask q k, es => by
    rw [attempt, breaksOff_ask]
    rintro ⟨answer, es', -, h⟩
    exact not_breaksOff_attempt h

/-- The result of an inquiry in two steps is that of the second, against servers in the state in
which the first left them. -/
theorem run_bind_fst (servers : (q : Question) → σ → q.Answer × σ) (f : α → Inquiry β) :
    ∀ (x : Inquiry α) (s : σ), ((x >>= f).run servers s).1
      = (x.run servers s).1.bind fun a => ((f a).run servers (x.run servers s).2.2).1
  | done _, _ => rfl
  | breakOff, _ => rfl
  | ask q k, s => run_bind_fst servers f (k (servers q s).1) (servers q s).2

theorem run_fetch_bind_fst (servers : (q : Question) → σ → q.Answer × σ) {client : ServerTrust}
    {request : HttpRequest} (f : Except HttpError HttpReply → Inquiry α) (s : σ) :
    ((fetch client request >>= f).run servers s).1
      = ((f (servers (.fetch client request) s).1).run servers
        (servers (.fetch client request) s).2).1 := rfl

end Inquiry

theorem BodyStream.length_le_of_read {b : BodyStream} {limit : UInt64} {uri : String}
    {bytes : Bytes} (h : b.read limit uri = some (.ok bytes)) : bytes.length ≤ limit.toNat := by
  obtain ⟨-, -, hlen, rfl⟩ := read_eq_ok_iff.1 h
  exact hlen

theorem HttpReply.length_le_of_received? {r : HttpReply} {limit : UInt64} {bytes : Bytes}
    (h : r.received? limit = some bytes) : bytes.length ≤ limit.toNat := by
  obtain ⟨-, hr, -⟩ := (@received?_eq_some_iff limit r "" bytes).1 h
  exact BodyStream.length_le_of_read hr

/-- Whether an encoding is the value that a directory gave. -/
def IsLookedUp (es : List Exchange) (encoding : Bytes) : Prop :=
  ∃ client url name, (⟨.lookUp client url name, .ok encoding⟩ : Exchange) ∈ es

theorem IsLookedUp.mono {es es' : List Exchange} {encoding : Bytes} (h : IsLookedUp es encoding)
    (hs : es ⊆ es') : IsLookedUp es' encoding := by
  obtain ⟨client, url, name, hm⟩ := h
  exact ⟨client, url, name, hs hm⟩

/-- A directory that is contacted stands for a point in it. -/
theorem IsLookedUp.exists_point {settings : Settings} {route : Route} {encoding : Bytes} :
    ∀ {asked : List String} {es : List Exchange},
      List.Forall₂ (Contacts settings route) asked es → IsLookedUp es encoding →
      ∃ p ∈ asked, DistributionPoint.IsDirectory p
  | [], _, .nil, ⟨_, _, _, hm⟩ => by cases hm
  | p :: asked, _, .cons hp hf, ⟨client, url, name, hm⟩ => by
    rcases List.mem_cons.1 hm with rfl | hm
    · cases hp with
      | lookedUp hd value => exact ⟨p, List.mem_cons_self, hd⟩
    · obtain ⟨p', hp', hd⟩ := exists_point hf ⟨client, url, name, hm⟩
      exact ⟨p', List.mem_cons_of_mem p hp', hd⟩

namespace RevocationList

/-- Servers that answer nothing but directories, and these with one value. -/
def directoryValue (value : Bytes) : (q : Question) → Unit → q.Answer × Unit
  | .fetch _ _, s => (.error (.io .refused ""), s)
  | .lookUp _ _ _, s => (.ok value, s)

section Download

variable {settings : Settings} {route : Route}

theorem length_of_download {point : String} {es : List Exchange} {encoding : Bytes}
    (h : (download settings route point).Yields es (.ok encoding)) :
    encoding.length ≤ settings.network.maxResponseSize.toNat ∨ IsLookedUp es encoding := by
  have hv := (download_yields.1 ⟨_, h, rfl⟩).1
  generalize hl : (Except.ok encoding : Except DownloadError Bytes).toOption = list at hv
  cases hv with
  | fetched hw hu reply =>
    obtain ⟨r, -, hr⟩ := Option.bind_eq_some_iff.1 hl.symm
    exact .inl (HttpReply.length_le_of_received? hr)
  | lookedUp hd value =>
    obtain ⟨hs, -⟩ := Option.filter_eq_some_iff.1 hl.symm
    rcases value with e | bytes
    · cases hs
    · cases hs
      exact .inr ⟨_, _, _, List.mem_singleton_self _⟩
  | unaddressed hw hu => cases hl
  | passed hw hd => cases hl

theorem download_directoryValue {value : Bytes} (hv : value ≠ []) (point : String) :
    ((download settings route point).run (directoryValue value) ()).1.map Except.toOption
      = some (if DistributionPoint.scheme point = "ldap" ∨ DistributionPoint.scheme point = "ldaps"
          then some value else none) := by
  have hd := @DistributionPoint.isDirectory_iff point
  split_ifs with h
  · rw [download_of_isDirectory (hd.2 h), Inquiry.run_bind_fst]
    obtain ⟨b, bs, rfl⟩ := List.exists_cons_of_ne_nil hv
    rfl
  by_cases hw : DistributionPoint.IsWeb point
  · rw [download_of_isWeb hw]
    rcases Uri.parse? point with _ | uri <;> rfl
  · rw [download_of_other hw (hd.not.2 h)]
    rfl

end Download

/-- The walk over points with the encodings that it examines, in order. -/
def walkExamining [CryptoLibrary] (settings : Settings) (route : Route) (key : Option Bytes)
    (serial : Nat) (progress : Progress) : List String → Inquiry (Option Outcome × List Bytes)
  | [] => return (some progress.outcome, [])
  | point :: rest =>
    if DistributionPoint.isResponder point then
      walkExamining settings route key serial progress rest
    else do
      match ← (download settings route point).attempt with
      | none => return (none, [])
      | some (.error _) =>
        walkExamining settings route key serial { progress with failed := true } rest
      | some (.ok encoding) =>
        match examine key serial encoding with
        | .unusable => return (some .serverError, [encoding])
        | .listed => return (some .revoked, [encoding])
        | .notListed => do
          let (o, later) ←
            walkExamining settings route key serial { progress with checked := true } rest
          return (o, encoding :: later)

/-- The check of revocation lists with the encodings that it examines. -/
def checkExamining [CryptoLibrary] (settings : Settings) (route : Route) (certificate : Bytes)
    (key : Option Bytes) (points : Option (List String)) : Inquiry (Option Outcome × List Bytes) :=
  match Certificate.decode? certificate with
  | none => return (some .corrupt, [])
  | some c => walkExamining settings route key c.serialNumber {} (points.getD c.distributionPoints)

section Walk

variable [CryptoLibrary] {settings : Settings} {route : Route} {key : Option Bytes} {serial : Nat}

theorem outcome_walkExamining : ∀ (points : List String) (progress : Progress),
    (walkExamining settings route key serial progress points >>= fun r => Inquiry.ofOption r.1)
      = walk settings route key serial progress points
  | [], _ => rfl
  | point :: rest, progress => by
    have ih := outcome_walkExamining rest
    unfold walkExamining walk
    split_ifs
    · exact ih progress
    rw [bind_assoc, ← Inquiry.attempt_bind _ (download settings route point)]
    congr 1
    funext r
    rcases r with _ | e | encoding
    · rfl
    · exact ih _
    show _ = (match examine key serial encoding with
      | .unusable => (pure .serverError : Inquiry Outcome)
      | .listed => pure .revoked
      | .notListed => walk settings route key serial { progress with checked := true } rest)
    rcases hx : examine key serial encoding <;> simp only [hx]
    · rfl
    · rfl
    · rw [← ih, bind_assoc]
      rfl

theorem not_walkExamining_breaksOff : ∀ {points : List String} {progress : Progress}
    {es : List Exchange},
    ¬ (walkExamining settings route key serial progress points).BreaksOff es
  | [], _, _ => Inquiry.not_breaksOff_pure
  | point :: rest, progress, es => by
    intro h
    unfold walkExamining at h
    split_ifs at h
    · exact not_walkExamining_breaksOff h
    rcases Inquiry.breaksOff_bind.1 h with h | ⟨es₁, r, es₂, -, h₂, -⟩
    · exact Inquiry.not_breaksOff_attempt h
    rcases r with _ | e | encoding
    · exact Inquiry.not_breaksOff_pure h₂
    · exact not_walkExamining_breaksOff h₂
    rcases hx : examine key serial encoding <;> simp only [hx] at h₂
    · exact Inquiry.not_breaksOff_pure h₂
    · exact Inquiry.not_breaksOff_pure h₂
    · rcases Inquiry.breaksOff_bind.1 h₂ with h₂ | ⟨_, _, _, -, h₂, -⟩
      · exact not_walkExamining_breaksOff h₂
      · exact Inquiry.not_breaksOff_pure h₂

/-- What a walk examines is within the limit or the value of a directory. -/
theorem length_of_walkExamining : ∀ {points : List String} {progress : Progress}
    {es : List Exchange} {o : Option Outcome} {read : List Bytes},
    (walkExamining settings route key serial progress points).Yields es (o, read) →
    ∀ encoding ∈ read,
      encoding.length ≤ settings.network.maxResponseSize.toNat ∨ IsLookedUp es encoding
  | [], _, es, o, read, h, encoding, he => by
    obtain ⟨-, hr⟩ := Inquiry.yields_pure.1 h
    cases hr
    cases he
  | point :: rest, progress, es, o, read, h, encoding, he => by
    unfold walkExamining at h
    split_ifs at h
    · exact length_of_walkExamining h encoding he
    obtain ⟨es₁, r, es₂, h₁, h₂, rfl⟩ := Inquiry.yields_bind.1 h
    have left : es₁ ⊆ es₁ ++ es₂ := List.subset_append_left es₁ es₂
    have right : es₂ ⊆ es₁ ++ es₂ := List.subset_append_right es₁ es₂
    rcases r with _ | e | first
    · obtain ⟨-, hr⟩ := Inquiry.yields_pure.1 h₂
      cases hr
      cases he
    · exact (length_of_walkExamining h₂ encoding he).imp_right (·.mono right)
    have hfirst := (length_of_download (Inquiry.yields_of_attempt h₁)).imp_right (·.mono left)
    rcases hx : examine key serial first <;> simp only [hx] at h₂
    · obtain ⟨-, hr⟩ := Inquiry.yields_pure.1 h₂
      cases hr
      rwa [List.mem_singleton.1 he]
    · obtain ⟨-, hr⟩ := Inquiry.yields_pure.1 h₂
      cases hr
      rwa [List.mem_singleton.1 he]
    · obtain ⟨es₃, ⟨o', later⟩, es₄, h₃, h₄, rfl⟩ := Inquiry.yields_bind.1 h₂
      obtain ⟨rfl, hr⟩ := Inquiry.yields_pure.1 h₄
      cases hr
      rcases List.mem_cons.1 he with rfl | he
      · exact hfirst
      · rw [List.append_nil] at right
        rw [List.append_nil]
        exact (length_of_walkExamining h₃ encoding he).imp_right (·.mono right)

/-- If nothing but directories answers, the walk examines the value of the first directory. -/
theorem mem_walkExamining {value : Bytes} (hv : value ≠ []) : ∀ {points : List String}
    {progress : Progress},
    (∃ p ∈ DistributionPoint.usable points, DistributionPoint.IsDirectory p) →
    ∃ o read, ((walkExamining settings route key serial progress points).run
      (directoryValue value) ()).1 = some (o, read) ∧ value ∈ read
  | [], _, h => by simp [DistributionPoint.usable] at h
  | point :: rest, progress, h => by
    have ih := fun progress => @mem_walkExamining value hv rest progress
    by_cases ho : "ocsp".toList <:+: point.toList
    · rw [walkExamining, if_pos (DistributionPoint.isResponder_iff.2 ho)]
      rw [DistributionPoint.usable, List.filter_cons_of_neg (by simpa using ho)] at h
      exact ih progress h
    rw [walkExamining, if_neg (DistributionPoint.isResponder_iff.not.2 ho), Inquiry.run_bind_fst,
      Inquiry.run_attempt, Option.bind_some]
    have hdown := @download_directoryValue settings route value hv point
    rcases hr : ((download settings route point).run (directoryValue value) ()).1
      with _ | e | encoding <;> rw [hr] at hdown
    · cases hdown
    · refine ih _ ?_
      rw [DistributionPoint.usable, List.filter_cons_of_pos (by simpa using ho)] at h
      obtain ⟨p, hp, hd⟩ := h
      rcases List.mem_cons.1 hp with rfl | hp
      · rw [if_pos (DistributionPoint.isDirectory_iff.1 hd)] at hdown
        cases hdown
      · exact ⟨p, hp, hd⟩
    · obtain rfl : encoding = value := by
        split_ifs at hdown
        · cases hdown
          rfl
        · cases hdown
      rcases hx : examine key serial encoding <;> simp only [hx]
      · exact ⟨_, _, rfl, List.mem_singleton_self _⟩
      · exact ⟨_, _, rfl, List.mem_singleton_self _⟩
      · obtain ⟨⟨o, later⟩, hrun⟩ := Inquiry.exists_run_eq (directoryValue encoding)
          (fun es => @not_walkExamining_breaksOff _ settings route key serial rest
            { progress with checked := true } es) ()
        rw [Inquiry.run_bind_fst, hrun]
        exact ⟨o, encoding :: later, rfl, List.mem_cons_self⟩

theorem outcome_checkExamining (certificate : Bytes) (points : Option (List String)) :
    (checkExamining settings route certificate key points >>= fun r => Inquiry.ofOption r.1)
      = check settings route certificate key points := by
  unfold checkExamining check
  rcases Certificate.decode? certificate with _ | c
  · rfl
  · exact outcome_walkExamining _ _

theorem not_checkExamining_breaksOff {certificate : Bytes} {points : Option (List String)}
    {es : List Exchange} :
    ¬ (checkExamining settings route certificate key points).BreaksOff es := by
  unfold checkExamining
  split
  · exact Inquiry.not_breaksOff_pure
  · exact not_walkExamining_breaksOff

theorem length_of_checkExamining {certificate : Bytes} {points : Option (List String)}
    {es : List Exchange} {o : Option Outcome} {read : List Bytes}
    (h : (checkExamining settings route certificate key points).Yields es (o, read)) :
    ∀ encoding ∈ read,
      encoding.length ≤ settings.network.maxResponseSize.toNat ∨ IsLookedUp es encoding := by
  unfold checkExamining at h
  split at h
  · obtain ⟨-, hr⟩ := Inquiry.yields_pure.1 h
    cases hr
    exact List.forall_mem_nil _
  · exact length_of_walkExamining h

/-- What a check with its encodings asks is what the check asks, which contacts points in order. -/
theorem contacts_of_checkExamining {certificate : Bytes} {c : Certificate}
    (hc : Certificate.decode? certificate = some c) {points : Option (List String)}
    {es : List Exchange} {o : Option Outcome} {read : List Bytes}
    (h : (checkExamining settings route certificate key points).Yields es (o, read)) :
    ContactsInOrder settings route key c.serialNumber
      (DistributionPoint.usable (points.getD c.distributionPoints)) es := by
  rcases o with _ | o
  · have hb : (check settings route certificate key points).BreaksOff es := by
      rw [← outcome_checkExamining]
      exact Inquiry.breaksOff_bind.2 (.inr
        ⟨es, _, [], h, Inquiry.breaksOff_ofOption.2 ⟨rfl, rfl⟩, (List.append_nil es).symm⟩)
    exact ((check_breaksOff_iff hc).1 hb).2.contacts
  · have hy : (check settings route certificate key points).Yields es o := by
      rw [← outcome_checkExamining]
      exact Inquiry.yields_bind.2
        ⟨es, _, [], h, Inquiry.yields_ofOption.2 ⟨rfl, rfl⟩, (List.append_nil es).symm⟩
    exact ((check_yields_iff hc).1 hy).1.contacts

end Walk

end RevocationList

namespace StatusRequest

/-- The body that the reply of a responder brings, unless reading it breaks off. -/
def bodyOf (settings : Settings) (url : String) :
    Except HttpError HttpReply → Option (Except ResponderError Bytes)
  | .error e => some (.error (.ofHttp url e))
  | .ok reply =>
    if !reply.isSuccess then some (.error (.status url reply.status))
    else (reply.body.read settings.network.maxResponseSize url).map (·.mapError (.ofHttp url))

theorem length_of_bodyOf {settings : Settings} {url : String}
    {reply : Except HttpError HttpReply} {body : Bytes}
    (h : bodyOf settings url reply = some (.ok body)) :
    body.length ≤ settings.network.maxResponseSize.toNat := by
  rcases reply with e | r
  · cases h
  simp only [bodyOf] at h
  split_ifs at h
  · cases h
  obtain ⟨e | bytes, hr, h⟩ := Option.map_eq_some_iff.1 h
  · cases h
  · cases h
    exact BodyStream.length_le_of_read hr

variable [CryptoLibrary]

/-- The question to a responder with the encodings that are interpreted. -/
def askInterpreting (settings : Settings) (client : ServerTrust) (random certificate issuer : Bytes)
    (url : String) : Inquiry (Option (Except ResponderError Outcome) × List Bytes) :=
  match Expectation.ofEncoded? certificate issuer ((sentNonce settings random).map nonceValue) with
  | none => return (some (.ok .corrupt), [])
  | some x =>
    match Uri.parse? url with
    | none => return (some (.error (.ofHttp url .invalidRequest)), [])
    | some uri => do
      let reply ← Inquiry.fetch client ((make x.certificate (sentNonce settings random)).post uri)
      match bodyOf settings url reply with
      | none => return (none, [])
      | some (.error e) => return (some (.error e), [])
      | some (.ok body) => return (some (.ok (StatusResponse.interpret body x)), [body])

/-- The check with a responder with the encodings that are interpreted. -/
def checkInterpreting (settings : Settings) (client : ServerTrust)
    (random certificate issuer : Bytes) :
    Inquiry (Option (Except ResponderError Outcome) × List Bytes) :=
  match Certificate.decode? certificate with
  | none => return (some (.ok .corrupt), [])
  | some c =>
    match responder? settings c with
    | none => return (some (.error .noResponder), [])
    | some url => askInterpreting settings client random certificate issuer url

section Check

variable {settings : Settings} {client : ServerTrust} {random certificate issuer : Bytes}

theorem ofReply_eq (url : String) (x : Expectation) (reply : Except HttpError HttpReply) :
    ofReply settings url x reply = (bodyOf settings url reply).map
      fun body => body.map fun bytes => StatusResponse.interpret bytes x := by
  rcases reply with e | r
  · rfl
  unfold ofReply bodyOf
  simp only []
  split_ifs
  · rfl
  · rcases r.body.read settings.network.maxResponseSize url with _ | e | body <;> rfl

theorem result_askInterpreting (url : String) :
    (askInterpreting settings client random certificate issuer url >>=
        fun r => Inquiry.ofOption r.1)
      = askResponder settings client random certificate issuer url := by
  rw [askResponder_eq]
  unfold askInterpreting
  rcases Expectation.ofEncoded? certificate issuer ((sentNonce settings random).map nonceValue)
    with _ | x
  · rfl
  rcases Uri.parse? url with _ | uri
  · rfl
  simp only [bind_assoc]
  congr 1
  funext reply
  rw [ofReply_eq]
  rcases bodyOf settings url reply with _ | e | body <;> rfl

theorem result_checkInterpreting :
    (checkInterpreting settings client random certificate issuer >>= fun r => Inquiry.ofOption r.1)
      = check settings client random certificate issuer := by
  unfold checkInterpreting check
  rcases Certificate.decode? certificate with _ | c
  · rfl
  simp only []
  rcases responder? settings c with _ | url
  · rfl
  · exact result_askInterpreting url

/-- The check with its encodings always comes to a result, and none of them is too long. -/
theorem run_checkInterpreting {σ : Type} (servers : (q : Question) → σ → q.Answer × σ) (s : σ) :
    ∃ result read, ((checkInterpreting settings client random certificate issuer).run servers s).1
        = some (result, read)
      ∧ ∀ encoding ∈ read, encoding.length ≤ settings.network.maxResponseSize.toNat := by
  have unread : ∀ (result : Option (Except ResponderError Outcome)) (s : σ),
      ∃ result' read, ((pure (result, []) : Inquiry (_ × List Bytes)).run servers s).1
          = some (result', read)
        ∧ ∀ encoding ∈ read, encoding.length ≤ settings.network.maxResponseSize.toNat :=
    fun result _ => ⟨result, [], rfl, List.forall_mem_nil _⟩
  unfold checkInterpreting
  split
  · exact unread _ _
  split
  · exact unread _ _
  rename_i url _
  unfold askInterpreting
  split
  · exact unread _ _
  split
  · exact unread _ _
  rename_i uri _
  rw [Inquiry.run_fetch_bind_fst]
  split
  · exact unread _ _
  · exact unread _ _
  · rename_i body hb
    exact ⟨_, _, rfl, List.forall_mem_singleton.2 (length_of_bodyOf hb)⟩

end Check

end StatusRequest

open RevocationList StatusRequest in
/-- What is examined or interpreted is within the limit, unless a directory gave it, also where the
check breaks off; and a check of lists keeps within the limit, whatever the servers answer, exactly
if it has no point in a directory. -/
theorem check_reads_within_limit [CryptoLibrary] (settings : Settings) (certificate : Bytes) :
    (∀ route key points,
      (checkExamining settings route certificate key points >>= fun r => Inquiry.ofOption r.1)
          = RevocationList.check settings route certificate key points
      ∧ ∀ {σ : Type} (servers : (q : Question) → σ → q.Answer × σ) (s : σ),
          ∃ o read, ((checkExamining settings route certificate key points).run servers s).1
              = some (o, read)
            ∧ ∀ encoding ∈ read, encoding.length ≤ settings.network.maxResponseSize.toNat
              ∨ IsLookedUp
                ((checkExamining settings route certificate key points).transcript servers s)
                encoding)
    ∧ (∀ c, Certificate.decode? certificate = some c → ∀ route key points,
      (∀ {σ : Type} (servers : (q : Question) → σ → q.Answer × σ) (s : σ) o read,
          ((checkExamining settings route certificate key points).run servers s).1 = some (o, read)
            → ∀ encoding ∈ read, encoding.length ≤ settings.network.maxResponseSize.toNat)
        ↔ ∀ p ∈ DistributionPoint.usable (points.getD c.distributionPoints),
          ¬ DistributionPoint.IsDirectory p)
    ∧ ∀ client random issuer,
      (checkInterpreting settings client random certificate issuer >>=
          fun r => Inquiry.ofOption r.1)
          = StatusRequest.check settings client random certificate issuer
      ∧ ∀ {σ : Type} (servers : (q : Question) → σ → q.Answer × σ) (s : σ),
          ∃ result read,
            ((checkInterpreting settings client random certificate issuer).run servers s).1
              = some (result, read)
            ∧ ∀ encoding ∈ read, encoding.length ≤ settings.network.maxResponseSize.toNat := by
  refine ⟨fun route key points => ⟨outcome_checkExamining certificate points,
      fun servers s => ?_⟩,
    fun c hc route key points => ⟨fun h p hp hd => ?_,
      fun h σ servers s o read hr encoding he => ?_⟩,
    fun client random issuer => ⟨result_checkInterpreting, run_checkInterpreting⟩⟩
  · obtain ⟨⟨o, read⟩, hr⟩ :=
      Inquiry.exists_run_eq servers (fun es => not_checkExamining_breaksOff) s
    exact ⟨o, read, hr, length_of_checkExamining (Inquiry.yields_transcript servers hr)⟩
  · -- A directory may give a value that is one byte too long.
    have hlen : (List.replicate (settings.network.maxResponseSize.toNat + 1) (0 : UInt8)).length
        = settings.network.maxResponseSize.toNat + 1 := List.length_replicate
    have hne : List.replicate (settings.network.maxResponseSize.toNat + 1) (0 : UInt8) ≠ [] :=
      fun hn => by simp [hn] at hlen
    have hm := h (directoryValue (List.replicate (settings.network.maxResponseSize.toNat + 1) 0)) ()
    simp only [checkExamining, hc] at hm
    obtain ⟨o, read, hr, hmem⟩ := mem_walkExamining hne ⟨p, hp, hd⟩
    have hle := hm o read hr _ hmem
    omega
  · have hy := Inquiry.yields_transcript servers hr
    refine (length_of_checkExamining hy encoding he).resolve_right fun hl => ?_
    obtain ⟨asked, hs, hf⟩ := (contacts_of_checkExamining hc hy).contacts
    obtain ⟨p, hp, hd⟩ := hl.exists_point hf
    exact h p (hs.subset hp) hd

namespace RevocationList

/-- The check of a certificate that a list names, with a limit in bytes, and with the encodings that
it examines. -/
def limitedCheck (limit : UInt64) (point : String) : Inquiry (Option Outcome × List Bytes) :=
  checkExamining { network := { maxResponseSize := limit } } ⟨.checked, .checked⟩ listedCertificate
    none (some [point])

theorem limitedCheck_of_listing :
    ((limitedCheck 200 listingPoint).run listingServers ()).1
        = some (some .revoked, [listingEncoding])
      ∧ listingEncoding.length ≤ 200 := by
  have hr : ((limitedCheck 200 listingPoint).run listingServers ()).1
      = some (some .revoked, [listingEncoding]) := by decide +kernel
  obtain ⟨c, hc⟩ : ∃ c, Certificate.decode? listedCertificate = some c :=
    Option.isSome_iff_exists.1 (by decide +kernel)
  have hp : ∀ p ∈ DistributionPoint.usable [listingPoint], ¬ DistributionPoint.IsDirectory p := by
    intro p hp
    rw [List.mem_singleton.1 (List.mem_of_mem_filter hp), DistributionPoint.isDirectory_iff]
    decide +kernel
  have hl := ((check_reads_within_limit { network := { maxResponseSize := 200 } }
    listedCertificate).2.1 c hc ⟨.checked, .checked⟩ none (some [listingPoint])).2 hp
    listingServers () _ _ hr listingEncoding
  exact ⟨hr, hl (List.mem_singleton_self _)⟩

/-- A point in a directory. -/
def directoryPoint : String := "ldap://crl1.invalid/cn=CRL1"

/-- The list that a directory gives is examined, though it is longer than ten bytes. -/
theorem limitedCheck_of_directory :
    ((limitedCheck 10 directoryPoint).run (directoryValue listingEncoding) ()).1
        = some (some .revoked, [listingEncoding]) ∧ 10 < listingEncoding.length := by
  decide +kernel

end RevocationList

end SignerTrust
