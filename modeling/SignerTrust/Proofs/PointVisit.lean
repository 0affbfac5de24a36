import Mathlib.Tactic.Common
import SignerTrust.Proofs.Body
import SignerTrust.Proofs.DistributionPoint
import SignerTrust.Proofs.Transcript

/-!
# Visits to distribution points

A visit to a point takes at most one exchange and brings a list or none (`Visit.Proper`).  The
downloads that come to a result are those visits, if a reply is taken to bring what its reader gets
(`download_yields`), as long as the reply can be read (`AllRead`): where a limit leaves no bound
for reading, a download breaks off at a successful reply (`download_breaksOff`).
-/

namespace SignerTrust

/-- A visit to a point: the exchanges that it took, and the list that it brought, if any. -/
structure Visit where
  point : String
  exchanges : List Exchange
  list : Option Bytes

/-- How a visit goes.  The list of a point on the web is fetched once, if its address is valid, and
`body?` tells what a reply brings; a directory is asked once, and an empty value is none; of any
other point nothing is asked. -/
inductive Visit.Proper (settings : Settings) (route : Route) (body? : HttpReply → Option Bytes) :
    Visit → Prop
  | fetched {point uri} (hw : DistributionPoint.IsWeb point) (hu : Uri.parse? point = some uri)
      (reply : Except HttpError HttpReply) :
    Proper settings route body?
      ⟨point, [⟨.fetch route.http ⟨.get, uri, [], []⟩, reply⟩], reply.toOption.bind body?⟩
  | unaddressed {point} (hw : DistributionPoint.IsWeb point) (hu : Uri.parse? point = none) :
    Proper settings route body? ⟨point, [], none⟩
  | lookedUp {point} (hd : DistributionPoint.IsDirectory point)
      (value : Except DirectoryError Bytes) :
    Proper settings route body?
      ⟨point, [⟨.lookUp route.directory point settings.lists.directoryAttribute, value⟩],
        value.toOption.filter (· ≠ [])⟩
  | passed {point} (hw : ¬ DistributionPoint.IsWeb point)
      (hd : ¬ DistributionPoint.IsDirectory point) : Proper settings route body? ⟨point, [], none⟩

/-- Whether an exchange brought a successful reply. -/
def Exchange.succeeds : Exchange → Bool
  | ⟨.fetch _ _, reply⟩ => reply.toOption.any HttpReply.isSuccess
  | ⟨.lookUp _ _ _, _⟩ => false

/-- Whether the replies of exchanges can be read with a limit: with the greatest one no successful
reply can. -/
def AllRead (limit : UInt64) (es : List Exchange) : Prop :=
  limit = noLimit → ∀ e ∈ es, e.succeeds = false

@[simp] theorem allRead_nil (limit : UInt64) : AllRead limit [] :=
  fun _ => List.forall_mem_nil _

@[simp] theorem allRead_append {limit : UInt64} {es es' : List Exchange} :
    AllRead limit (es ++ es') ↔ AllRead limit es ∧ AllRead limit es' := by
  simp only [AllRead, List.forall_mem_append, imp_and]

namespace RevocationList

variable {settings : Settings} {route : Route} {point : String}

/-- Reading a reply breaks off only where there is no bound for reading its body. -/
theorem ofReply_eq_none_iff {settings : NetworkSettings} {point : String}
    {reply : Except HttpError HttpReply} : ofReply settings point reply = none ↔
      settings.maxResponseSize = noLimit ∧ ∃ r, reply = .ok r ∧ r.isSuccess = true := by
  rcases reply with e | r
  · simp [ofReply]
  cases hs : r.isSuccess <;> simp [ofReply, hs, BodyStream.read_eq_none_iff]

theorem toOption_ofReply {settings : NetworkSettings} {point : String}
    {reply : Except HttpError HttpReply} {body : Except DownloadError Bytes}
    (h : ofReply settings point reply = some body) :
    (nonEmpty body).toOption
      = reply.toOption.bind (HttpReply.received? settings.maxResponseSize) := by
  rcases reply with e | r
  · cases h
    rfl
  refine Option.ext fun bytes => ?_
  simp only [Except.toOption, Option.bind_some]
  rw [@HttpReply.received?_eq_some_iff settings.maxResponseSize r point]
  by_cases hs : r.isSuccess
  · simp only [ofReply, hs, Bool.not_true, Bool.false_eq_true, if_false, true_and] at h ⊢
    obtain ⟨read, hread, rfl⟩ := Option.map_eq_some_iff.1 h
    rw [hread]
    rcases read with e | _ | ⟨b, bs⟩
    · simp [nonEmpty, Except.mapError]
    · simp [nonEmpty, Except.mapError]
    · simp only [nonEmpty, Except.mapError, Option.some.injEq, Except.ok.injEq]
      constructor
      · rintro rfl
        exact ⟨rfl, List.cons_ne_nil b bs⟩
      · rintro ⟨rfl, -⟩
        rfl
  · simp only [ofReply, hs, Bool.not_false, if_true, Option.some.injEq] at h
    subst h
    simp [nonEmpty, hs]

/-- What a value of a directory brings. -/
def ofValue : Except DirectoryError Bytes → Except DownloadError Bytes
  | .error e => .error (.directory e)
  | .ok value => nonEmpty (.ok value)

theorem toOption_ofValue : ∀ value : Except DirectoryError Bytes,
    (ofValue value).toOption = value.toOption.filter (· ≠ [])
  | .error _ => rfl
  | .ok [] => rfl
  | .ok (_ :: _) => rfl

theorem download_of_isWeb {point : String} (hw : DistributionPoint.IsWeb point) :
    download settings route point = match Uri.parse? point with
      | none => pure (.error (.http .invalidRequest))
      | some uri => Inquiry.fetch route.http (request uri) >>= fun reply =>
        Inquiry.ofOption (ofReply settings.network point reply) >>= fun body =>
          pure (nonEmpty body) := by
  have hs := DistributionPoint.isWeb_iff.1 hw
  rcases hu : Uri.parse? point with _ | uri <;> simp only [download, if_pos hs, hu]

theorem download_of_isDirectory {point : String} (hd : DistributionPoint.IsDirectory point) :
    download settings route point =
      Inquiry.lookUp route.directory point settings.lists.directoryAttribute >>= fun value =>
        pure (ofValue value) := by
  have hw := DistributionPoint.isWeb_iff.not.1 hd.not_isWeb
  rw [download, if_neg hw, if_pos (DistributionPoint.isDirectory_iff.1 hd)]
  congr 1
  funext value
  rcases value with e | value <;> rfl

theorem download_of_other {point : String} (hw : ¬ DistributionPoint.IsWeb point)
    (hd : ¬ DistributionPoint.IsDirectory point) :
    download settings route point = pure (.error (.unsupportedScheme point)) := by
  rw [download, if_neg (DistributionPoint.isWeb_iff.not.1 hw),
    if_neg (DistributionPoint.isDirectory_iff.not.1 hd)]

theorem allRead_fetched (point : String) {uri : Uri} {reply : Except HttpError HttpReply} :
    AllRead settings.network.maxResponseSize [⟨.fetch route.http ⟨.get, uri, [], []⟩, reply⟩]
      ↔ ofReply settings.network point reply ≠ none := by
  rw [Ne, ofReply_eq_none_iff, not_and]
  refine imp_congr_right fun _ => ?_
  rcases reply with e | r <;> simp [Exchange.succeeds, Except.toOption]

theorem allRead_lookedUp {limit : UInt64} {value : Except DirectoryError Bytes} :
    AllRead limit
      [⟨.lookUp route.directory point settings.lists.directoryAttribute, value⟩] := fun _ =>
  List.forall_mem_singleton.2 rfl

theorem download_yields_of_isWeb {es : List Exchange} {r : Except DownloadError Bytes}
    (hw : DistributionPoint.IsWeb point) {uri : Uri} (hu : Uri.parse? point = some uri) :
    (download settings route point).Yields es r ↔ ∃ reply : Except HttpError HttpReply, ∃ body,
      es = [⟨.fetch route.http ⟨.get, uri, [], []⟩, reply⟩]
        ∧ ofReply settings.network point reply = some body ∧ r = nonEmpty body := by
  rw [download_of_isWeb hw, hu]
  simp only []
  rw [Inquiry.yields_fetch_bind]
  simp only [Inquiry.yields_bind, Inquiry.yields_ofOption, Inquiry.yields_pure]
  constructor
  · rintro ⟨reply, _, rfl, _, body, _, ⟨rfl, hbody⟩, ⟨rfl, rfl⟩, rfl⟩
    exact ⟨reply, body, rfl, hbody, rfl⟩
  · rintro ⟨reply, body, rfl, hbody, rfl⟩
    exact ⟨reply, [], rfl, [], body, [], ⟨rfl, hbody⟩, ⟨rfl, rfl⟩, rfl⟩

theorem download_yields_of_unaddressed {es : List Exchange} {r : Except DownloadError Bytes}
    (hw : DistributionPoint.IsWeb point) (hu : Uri.parse? point = none) :
    (download settings route point).Yields es r
      ↔ es = [] ∧ r = .error (.http .invalidRequest) := by
  rw [download_of_isWeb hw, hu]
  exact Inquiry.yields_pure

theorem download_yields_of_isDirectory {es : List Exchange} {r : Except DownloadError Bytes}
    (hd : DistributionPoint.IsDirectory point) :
    (download settings route point).Yields es r ↔ ∃ value : Except DirectoryError Bytes,
      es = [⟨.lookUp route.directory point settings.lists.directoryAttribute, value⟩]
        ∧ r = ofValue value := by
  rw [download_of_isDirectory hd]
  simp only [Inquiry.yields_lookUp_bind, Inquiry.yields_pure]
  constructor
  · rintro ⟨value, _, rfl, rfl, rfl⟩
    exact ⟨value, rfl, rfl⟩
  · rintro ⟨value, rfl, rfl⟩
    exact ⟨value, [], rfl, rfl, rfl⟩

theorem download_yields_of_other {es : List Exchange} {r : Except DownloadError Bytes}
    (hw : ¬ DistributionPoint.IsWeb point) (hd : ¬ DistributionPoint.IsDirectory point) :
    (download settings route point).Yields es r
      ↔ es = [] ∧ r = .error (.unsupportedScheme point) := by
  rw [download_of_other hw hd]
  exact Inquiry.yields_pure

/-- Downloading a list is a proper visit, if a reply is taken to bring what its reader gets. -/
theorem download_yields {es : List Exchange} {list : Option Bytes} :
    (∃ r, (download settings route point).Yields es r ∧ r.toOption = list) ↔
      Visit.Proper settings route (HttpReply.received? settings.network.maxResponseSize)
        ⟨point, es, list⟩ ∧ AllRead settings.network.maxResponseSize es := by
  constructor
  · rintro ⟨r, h, rfl⟩
    by_cases hw : DistributionPoint.IsWeb point
    · rcases hu : Uri.parse? point with _ | uri
      · obtain ⟨rfl, rfl⟩ := (download_yields_of_unaddressed hw hu).1 h
        exact ⟨.unaddressed hw hu, allRead_nil _⟩
      · obtain ⟨reply, body, rfl, hbody, rfl⟩ := (download_yields_of_isWeb hw hu).1 h
        rw [toOption_ofReply hbody]
        exact ⟨.fetched hw hu reply, (allRead_fetched point).2 (by simp [hbody])⟩
    by_cases hd : DistributionPoint.IsDirectory point
    · obtain ⟨value, rfl, rfl⟩ := (download_yields_of_isDirectory hd).1 h
      rw [toOption_ofValue]
      exact ⟨.lookedUp hd value, allRead_lookedUp⟩
    · obtain ⟨rfl, rfl⟩ := (download_yields_of_other hw hd).1 h
      exact ⟨.passed hw hd, allRead_nil _⟩
  · rintro ⟨h, hr⟩
    cases h with
    | @fetched _ uri hw hu reply =>
      obtain ⟨body, hbody⟩ := Option.ne_none_iff_exists'.1 ((allRead_fetched _).1 hr)
      exact ⟨_, (download_yields_of_isWeb hw hu).2 ⟨reply, body, rfl, hbody, rfl⟩,
        toOption_ofReply hbody⟩
    | unaddressed hw hu =>
      exact ⟨_, (download_yields_of_unaddressed hw hu).2 ⟨rfl, rfl⟩, rfl⟩
    | lookedUp hd value =>
      exact ⟨_, (download_yields_of_isDirectory hd).2 ⟨value, rfl, rfl⟩, toOption_ofValue value⟩
    | passed hw hd =>
      exact ⟨_, (download_yields_of_other hw hd).2 ⟨rfl, rfl⟩, rfl⟩

/-- A download breaks off at a successful reply where there is no bound for reading its body. -/
theorem download_breaksOff {es : List Exchange} : (download settings route point).BreaksOff es ↔
    settings.network.maxResponseSize = noLimit ∧ ∃ uri reply, DistributionPoint.IsWeb point
      ∧ Uri.parse? point = some uri ∧ reply.isSuccess = true
      ∧ es = [⟨.fetch route.http ⟨.get, uri, [], []⟩, .ok reply⟩] := by
  constructor
  · intro h
    by_cases hw : DistributionPoint.IsWeb point
    · rw [download_of_isWeb hw] at h
      rcases hu : Uri.parse? point with _ | uri <;> simp only [hu] at h
      · exact absurd h Inquiry.not_breaksOff_pure
      obtain ⟨reply, _, rfl, hread⟩ := Inquiry.breaksOff_fetch_bind.1 h
      rcases Inquiry.breaksOff_bind.1 hread with h | ⟨_, _, _, -, h, -⟩
      · obtain ⟨rfl, hr⟩ := Inquiry.breaksOff_ofOption.1 h
        obtain ⟨hl, r, rfl, hs⟩ := ofReply_eq_none_iff.1 hr
        exact ⟨hl, uri, r, hw, rfl, hs, rfl⟩
      · exact absurd h Inquiry.not_breaksOff_pure
    by_cases hd : DistributionPoint.IsDirectory point
    · rw [download_of_isDirectory hd] at h
      obtain ⟨_, _, -, hread⟩ := Inquiry.breaksOff_lookUp_bind.1 h
      exact absurd hread Inquiry.not_breaksOff_pure
    · rw [download_of_other hw hd] at h
      exact absurd h Inquiry.not_breaksOff_pure
  · rintro ⟨hl, uri, reply, hw, hu, hs, rfl⟩
    rw [download_of_isWeb hw, hu]
    refine Inquiry.breaksOff_fetch_bind.2 ⟨_, [], rfl, ?_⟩
    exact Inquiry.breaksOff_bind.2 (.inl (Inquiry.breaksOff_ofOption.2
      ⟨rfl, ofReply_eq_none_iff.2 ⟨hl, reply, rfl, hs⟩⟩))

end RevocationList

end SignerTrust
