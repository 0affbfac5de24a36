import SignerTrust.Proofs.ListCheck

/-!
# The order of distribution points

Against servers that answer each question in one way, the outcome of a check is settled by what is
found at the usable points, each on its own (`result_walk`).  So a point of a responder may be put
in anywhere, a point at which nothing can be had only turns an unknown status into a failed
download, and where all that can be had are lists, the order of the points is of no account
(`check_order_independent`), unless a limit leaves no bound for reading: then a list that names the
certificate may stand before the reply at which the check breaks off, or after it
(`listing_after_cut`).
-/

namespace SignerTrust

namespace Inquiry

variable {α β σ : Type} {answer : (q : Question) → q.Answer}

/-- The result of an inquiry, if it comes to one, when each question has one answer. -/
def result (answer : (q : Question) → q.Answer) : Inquiry α → Option α
  | done a => some a
  | breakOff => none
  | ask q k => result answer (k (answer q))

theorem result_bind {f : α → Inquiry β} : ∀ i : Inquiry α,
    (i >>= f).result answer = (i.result answer).bind fun a => (f a).result answer
  | done _ => rfl
  | breakOff => rfl
  | ask q k => result_bind (k (answer q))

/-- Whatever state the servers are in, if their answers do not depend on it. -/
theorem run_of_steady {servers : (q : Question) → σ → q.Answer × σ}
    (hs : ∀ q s, (servers q s).1 = answer q) :
    ∀ (i : Inquiry α) (s : σ), (i.run servers s).1 = i.result answer
  | done _, _ => rfl
  | breakOff, _ => rfl
  | ask q k, s => by
    have ih := run_of_steady hs (k (servers q s).1) (servers q s).2
    simp only [run, result]
    rw [ih, hs]

end Inquiry

namespace DistributionPoint

variable {point : String} {before after : List String}

theorem usable_append : usable (before ++ after) = usable before ++ usable after :=
  List.filter_append ..

theorem usable_insert_responder (h : "ocsp".toList <:+: point.toList) :
    usable (before ++ point :: after) = usable (before ++ after) := by
  rw [usable_append, usable_append]
  congr 1
  exact List.filter_cons_of_neg (by simpa using h)

theorem usable_insert (h : ¬ "ocsp".toList <:+: point.toList) :
    usable (before ++ point :: after) = usable before ++ point :: usable after := by
  rw [usable_append]
  congr 1
  exact List.filter_cons_of_pos (by simpa using h)

end DistributionPoint

namespace RevocationList

/-- What is found at a point. -/
inductive Found
  | cut
  | nothing
  | list (finding : Finding)
  deriving DecidableEq

/-- What comes of what is found at points, after points that came to `p`. -/
def settle (p : Progress) : List Found → Option Outcome
  | [] => some p.outcome
  | .cut :: _ => none
  | .nothing :: rest => settle { p with failed := true } rest
  | .list .unusable :: _ => some .serverError
  | .list .listed :: _ => some .revoked
  | .list .notListed :: rest => settle { p with checked := true } rest

/-- An outcome after one more download that failed. -/
def afterFailure (o : Outcome) : Outcome :=
  if o = .unknown then .cannotDownloadCrl else o

section Settle

theorem Progress.outcome_ne_revoked (p : Progress) : p.outcome ≠ .revoked := by
  unfold outcome
  split_ifs <;> simp

theorem settle_failed : ∀ (found : List Found) (p : Progress),
    settle { p with failed := true } found = (settle p found).map afterFailure
  | [], p => by
    rcases p with ⟨_ | _, _ | _⟩ <;> rfl
  | .cut :: _, _ => rfl
  | .nothing :: rest, p => settle_failed rest { p with failed := true }
  | .list .unusable :: _, _ => rfl
  | .list .listed :: _, _ => rfl
  | .list .notListed :: rest, p => settle_failed rest { p with checked := true }

/-- One more point without a list, wherever it stands. -/
theorem settle_insert_nothing (after : List Found) : ∀ (before : List Found) (p : Progress),
    settle p (before ++ .nothing :: after) = (settle p (before ++ after)).map afterFailure
  | [], p => settle_failed after p
  | .cut :: _, _ => rfl
  | .nothing :: before, p => settle_insert_nothing after before { p with failed := true }
  | .list .unusable :: _, _ => rfl
  | .list .listed :: _, _ => rfl
  | .list .notListed :: before, p => settle_insert_nothing after before { p with checked := true }

/-- Findings none of which stops the walk with an error count by their kinds only, if they come to
an outcome at all. -/
theorem settle_of_readable : ∀ {found : List Found} {p : Progress} {o : Outcome},
    .list .unusable ∉ found → settle p found = some o → o = if .list .listed ∈ found then .revoked
      else Progress.outcome ⟨p.checked || decide (.list .notListed ∈ found),
        p.failed || decide (.nothing ∈ found)⟩
  | [], p, o, _, ho => by simpa [settle, eq_comm] using ho
  | .cut :: rest, p, o, _, ho => by cases ho
  | .nothing :: rest, p, o, h, ho => by
    have ih := settle_of_readable (List.not_mem_of_not_mem_cons h) ho
    simp [ih]
  | .list .unusable :: rest, p, o, h, _ => absurd List.mem_cons_self h
  | .list .listed :: rest, p, o, _, ho => by simpa [settle, eq_comm] using ho
  | .list .notListed :: rest, p, o, h, ho => by
    have ih := settle_of_readable (List.not_mem_of_not_mem_cons h) ho
    simp [ih]

variable {found found' : List Found} {p : Progress} {o o' : Outcome}

theorem settle_perm (h : found'.Perm found) (hu : .list .unusable ∉ found)
    (ho : settle p found = some o) (ho' : settle p found' = some o') : o' = o := by
  have hu' : .list .unusable ∉ found' := fun hm => hu (h.subset hm)
  rw [settle_of_readable hu ho, settle_of_readable hu' ho']
  simp only [h.mem_iff]

theorem settle_eq_revoked_iff (hu : .list .unusable ∉ found) (ho : settle p found = some o) :
    o = .revoked ↔ .list .listed ∈ found := by
  rw [settle_of_readable hu ho]
  split_ifs with hl
  · simp [hl]
  · simp [hl, Progress.outcome_ne_revoked]

end Settle

section Steady

variable [CryptoLibrary] {answer : (q : Question) → q.Answer} {settings : Settings} {route : Route}
  {certificate : Bytes} {key : Option Bytes} {serial : Nat} {point : String}

/-- What is found at a point when each question has one answer. -/
def found (answer : (q : Question) → q.Answer) (settings : Settings) (route : Route)
    (key : Option Bytes) (serial : Nat) (point : String) : Found :=
  match (download settings route point).result answer with
  | none => .cut
  | some (.error _) => .nothing
  | some (.ok encoding) => .list (examine key serial encoding)

theorem found_eq_list_iff {f : Finding} :
    found answer settings route key serial point = .list f ↔ ∃ encoding,
      (download settings route point).result answer = some (.ok encoding)
        ∧ examine key serial encoding = f := by
  unfold found
  rcases (download settings route point).result answer with _ | e | encoding <;> simp

theorem result_walk_of_usable : ∀ {points : List String} (p : Progress),
    (∀ point ∈ points, ¬ "ocsp".toList <:+: point.toList) →
    (walk settings route key serial p points).result answer
      = settle p (points.map (found answer settings route key serial))
  | [], p, _ => rfl
  | point :: rest, p, h => by
    obtain ⟨hp, hrest⟩ := List.forall_mem_cons.1 h
    have ih : ∀ p, (walk settings route key serial p rest).result answer
        = settle p (rest.map (found answer settings route key serial)) :=
      fun p => result_walk_of_usable p hrest
    rw [walk_cons hp, Inquiry.result_bind, List.map_cons, found]
    rcases (download settings route point).result answer with _ | e | encoding
    · rfl
    · exact ih _
    simp only [Option.bind_some, Except.toOption, next]
    rcases examine key serial encoding
    · rfl
    · rfl
    · exact ih _

theorem result_walk (points : List String) (p : Progress) :
    (walk settings route key serial p points).result answer
      = settle p ((DistributionPoint.usable points).map
          (found answer settings route key serial)) := by
  rw [walk_usable]
  refine result_walk_of_usable p fun point hp => ?_
  simpa using (List.mem_filter.1 hp).2

theorem result_check_of_decode {c : Certificate} (hc : Certificate.decode? certificate = some c)
    (points : List String) :
    (check settings route certificate key (some points)).result answer = settle {}
      ((DistributionPoint.usable points).map (found answer settings route key c.serialNumber)) := by
  simp only [check, hc, Option.getD_some]
  exact result_walk points {}

theorem result_check_of_none (hc : Certificate.decode? certificate = none) (points : List String) :
    (check settings route certificate key (some points)).result answer = some .corrupt := by
  simp only [check, hc]
  rfl

/-- A point of a responder changes nothing of the inquiry, whatever the servers are. -/
theorem check_insert_responder (h : "ocsp".toList <:+: point.toList) (before after : List String) :
    check settings route certificate key (some (before ++ point :: after))
      = check settings route certificate key (some (before ++ after)) := by
  unfold check
  rcases Certificate.decode? certificate with _ | c
  · rfl
  · simp only [Option.getD_some]
    rw [walk_usable, DistributionPoint.usable_insert_responder h, ← walk_usable]

theorem result_check_insert (h : ¬ "ocsp".toList <:+: point.toList) {e : DownloadError}
    (he : (download settings route point).result answer = some (.error e))
    (before after : List String) :
    (check settings route certificate key (some (before ++ point :: after))).result answer
      = ((check settings route certificate key (some (before ++ after))).result answer).map
          afterFailure := by
  rcases hc : Certificate.decode? certificate with _ | c
  · rw [result_check_of_none hc, result_check_of_none hc]
    rfl
  have hf : found answer settings route key c.serialNumber point = .nothing := by
    rw [found, he]
  rw [result_check_of_decode hc, result_check_of_decode hc, DistributionPoint.usable_insert h,
    DistributionPoint.usable_append, List.map_append, List.map_append, List.map_cons, hf]
  exact settle_insert_nothing _ _ _

section Readable

variable {points : List String} {o : Outcome}
  (hr : ∀ point ∈ DistributionPoint.usable points, ∀ encoding,
    (download settings route point).result answer = some (.ok encoding) →
      ∃ l, IsListOf key encoding l)
  (ho : (check settings route certificate key (some points)).result answer = some o)

include hr

theorem unusable_not_found :
    .list .unusable ∉ (DistributionPoint.usable points).map
      (found answer settings route key serial) := by
  intro hm
  obtain ⟨point, hp, hf⟩ := List.mem_map.1 hm
  obtain ⟨encoding, he, hx⟩ := found_eq_list_iff.1 hf
  obtain ⟨l, hl⟩ := hr point hp encoding he
  exact examine_eq_unusable_iff.1 hx l hl

include ho

theorem result_check_perm {points' : List String} (h : points'.Perm points) {o' : Outcome}
    (ho' : (check settings route certificate key (some points')).result answer = some o') :
    o' = o := by
  rcases hc : Certificate.decode? certificate with _ | c
  · rw [result_check_of_none hc] at ho ho'
    cases ho
    cases ho'
    rfl
  rw [result_check_of_decode hc] at ho ho'
  exact settle_perm ((h.filter _).map _) (unusable_not_found hr) ho ho'

theorem result_check_eq_revoked_iff : o = .revoked ↔
    ∃ c, Certificate.decode? certificate = some c ∧ ∃ point ∈ DistributionPoint.usable points,
      ∃ encoding l, (download settings route point).result answer = some (.ok encoding)
        ∧ IsListOf key encoding l ∧ l.lists c.serialNumber = true := by
  rcases hc : Certificate.decode? certificate with _ | c
  · rw [result_check_of_none hc] at ho
    cases ho
    simp
  rw [result_check_of_decode hc] at ho
  rw [settle_eq_revoked_iff (unusable_not_found hr) ho, List.mem_map]
  constructor
  · rintro ⟨point, hp, hf⟩
    obtain ⟨encoding, he, hx⟩ := found_eq_list_iff.1 hf
    obtain ⟨l, hl, hs⟩ := examine_eq_listed_iff.1 hx
    exact ⟨c, rfl, point, hp, encoding, l, he, hl, hs⟩
  · rintro ⟨_, heq, point, hp, encoding, l, he, hl, hs⟩
    cases heq
    exact ⟨point, hp, found_eq_list_iff.2 ⟨encoding, he, examine_eq_listed_iff.2 ⟨l, hl, hs⟩⟩⟩

end Readable

/-- Against servers whose answers depend on the question only: a point of a responder that is put in
anywhere changes nothing of a run.  A point whose list cannot be had, put in anywhere, leaves the
outcome as it is, or makes an unknown one a failed download.  If what the usable points give are
lists, signed by the key if one is given, all orders of the points that come to an outcome come to
the same, and the certificate is revoked exactly if one of those lists names it.  With any limit but
the greatest, all orders come to an outcome. -/
theorem check_order_independent {σ : Type} {servers : (q : Question) → σ → q.Answer × σ}
    {answer : (q : Question) → q.Answer} (hs : ∀ q s, (servers q s).1 = answer q)
    (settings : Settings) (route : Route) (certificate : Bytes) (key : Option Bytes) :
    (∀ before after point, "ocsp".toList <:+: point.toList → ∀ s,
      (check settings route certificate key (some (before ++ point :: after))).run servers s
        = (check settings route certificate key (some (before ++ after))).run servers s)
    ∧ (∀ before after point, ¬ "ocsp".toList <:+: point.toList →
      ∀ t e, ((download settings route point).run servers t).1 = some (.error e) → ∀ s s',
      ((check settings route certificate key (some (before ++ point :: after))).run servers s).1
        = ((check settings route certificate key (some (before ++ after))).run servers s').1.map
            fun o => if o = .unknown then .cannotDownloadCrl else o)
    ∧ (∀ points, (∀ point ∈ DistributionPoint.usable points, ∀ t encoding,
        ((download settings route point).run servers t).1 = some (.ok encoding) →
          ∃ l, IsListOf key encoding l) →
      ∀ s o, ((check settings route certificate key (some points)).run servers s).1 = some o →
        (∀ points' : List String, points'.Perm points → ∀ s' o',
          ((check settings route certificate key (some points')).run servers s').1 = some o' →
            o' = o)
        ∧ (o = .revoked ↔ ∃ c, Certificate.decode? certificate = some c
          ∧ ∃ point ∈ DistributionPoint.usable points, ∃ encoding l,
            ((download settings route point).run servers s).1 = some (.ok encoding)
              ∧ IsListOf key encoding l ∧ l.lists c.serialNumber = true))
    ∧ (settings.network.maxResponseSize ≠ noLimit → ∀ points s, ∃ o,
      ((check settings route certificate key (some points)).run servers s).1 = some o) := by
  refine ⟨fun before after point h s => ?_, fun before after point h t e he s s' => ?_,
    fun points hr s o ho => ⟨fun points' hp s' o' ho' => ?_, ?_⟩, fun hm points s => ?_⟩
  · rw [check_insert_responder h]
  · rw [Inquiry.run_of_steady hs] at he
    rw [Inquiry.run_of_steady hs, Inquiry.run_of_steady hs]
    exact result_check_insert h he before after
  · simp only [Inquiry.run_of_steady hs] at hr ho ho'
    exact result_check_perm (fun point hp => hr point hp s) ho hp ho'
  · simp only [Inquiry.run_of_steady hs] at hr ho ⊢
    exact result_check_eq_revoked_iff (fun point hp => hr point hp s) ho
  · exact Inquiry.exists_run_eq servers (fun es => not_check_breaksOff hm) s

end Steady

/-- Points of which one gives a list that names the certificate, one gives none and one is that of a
responder. -/
def samplePoints : List String := ["ldap://crl2.invalid/", "http://ocsp.invalid/", listingPoint]

theorem check_order_independent_of_listing :
    ((check { network := { maxResponseSize := 200 } } ⟨.checked, .checked⟩ listedCertificate none
      (some samplePoints.reverse)).run listingServers ()).1 = some .revoked := by
  have hs : ∀ (q : Question) (s : Unit), (listingServers q s).1 = (listingServers q ()).1 :=
    fun _ _ => rfl
  have hd : ∀ point ∈ samplePoints, (((download { network := { maxResponseSize := 200 } }
      ⟨.checked, .checked⟩ point).run listingServers ()).1.bind Except.toOption).getD
        listingEncoding = listingEncoding := by decide +kernel
  have hr : ∀ point ∈ DistributionPoint.usable samplePoints, ∀ t encoding,
      ((download { network := { maxResponseSize := 200 } } ⟨.checked, .checked⟩ point).run
        listingServers t).1 = some (.ok encoding) → ∃ l, IsListOf none encoding l := by
    intro point hp t encoding he
    have hpoint := hd point (List.mem_filter.1 hp).1
    rw [he] at hpoint
    obtain rfl : encoding = listingEncoding := hpoint
    obtain ⟨l, hl⟩ : ∃ l, decode? listingEncoding = some l :=
      Option.isSome_iff_exists.1 (by decide +kernel)
    exact ⟨l, hl, fun k hk => by cases hk⟩
  have ho : ((check { network := { maxResponseSize := 200 } } ⟨.checked, .checked⟩ listedCertificate
      none (some samplePoints)).run listingServers ()).1 = some .revoked := by decide +kernel
  obtain ⟨-, -, hsame, htotal⟩ := check_order_independent hs
    { network := { maxResponseSize := 200 } } ⟨.checked, .checked⟩ listedCertificate none
  obtain ⟨o, ho'⟩ := htotal (by decide) samplePoints.reverse ()
  rw [ho', (hsame samplePoints hr () _ ho).1 _ (List.reverse_perm _) () o ho']

/-- Servers all of which give the list that names the certificate. -/
def listedServers : (q : Question) → Unit → q.Answer × Unit
  | .fetch _ _, s => (.ok ⟨200, ⟨[listingEncoding], none⟩⟩, s)
  | .lookUp _ _ _, s => (.ok listingEncoding, s)

/-- With the greatest limit the order of two points tells whether the certificate is found revoked,
though both give a list that names it. -/
theorem listing_after_cut :
    (∃ c l, Certificate.decode? listedCertificate = some c ∧ IsListOf none listingEncoding l
      ∧ l.lists c.serialNumber = true)
    ∧ ((check { network := { maxResponseSize := noLimit } } ⟨.checked, .checked⟩ listedCertificate
        none (some ["ldap://crl2.invalid/", listingPoint])).run listedServers ()).1 = some .revoked
    ∧ ((check { network := { maxResponseSize := noLimit } } ⟨.checked, .checked⟩ listedCertificate
        none (some [listingPoint, "ldap://crl2.invalid/"])).run listedServers ()).1 = none := by
  refine ⟨listingEncoding_lists, ?_, ?_⟩
  · decide +kernel
  · decide +kernel

end RevocationList

end SignerTrust
