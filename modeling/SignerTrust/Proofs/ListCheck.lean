import SignerTrust.Proofs.RevocationWalk
import SignerTrust.Signature.Reference

/-!
# Checks of revocation lists

A check of a certificate that can be read walks over the usable ones of its points, and its
transcripts and outcomes are exactly those walks, as long as every reply can be read
(`check_yields_iff`).  With any limit but the greatest that is so, and a reply brings its body if it
is successful, complete, within the limit and not empty.  With the greatest limit a check breaks off
at the first successful reply (`check_breaksOff_iff`), though its list may name the certificate.
-/

namespace SignerTrust

/-- Servers that give one reply to every request, and no value of a directory. -/
def alwaysReply (reply : HttpReply) : (q : Question) → Unit → q.Answer × Unit
  | .fetch _ _, s => (.ok reply, s)
  | .lookUp _ _ _, s => (.error .failed, s)

namespace RevocationList

section

variable [CryptoLibrary] {settings : Settings} {route : Route} {certificate : Bytes}
  {c : Certificate} {key : Option Bytes} {points : Option (List String)} {es : List Exchange}

theorem check_eq (hc : Certificate.decode? certificate = some c) :
    check settings route certificate key points = walk settings route key c.serialNumber {}
      (DistributionPoint.usable (points.getD c.distributionPoints)) := by
  simp only [check, hc]
  exact walk_usable _ _

theorem check_yields_iff (hc : Certificate.decode? certificate = some c) {o : Outcome} :
    (check settings route certificate key points).Yields es o ↔
      Walk settings route (HttpReply.received? settings.network.maxResponseSize) key
          c.serialNumber {} (DistributionPoint.usable (points.getD c.distributionPoints)) es o
        ∧ AllRead settings.network.maxResponseSize es := by
  rw [check_eq hc]
  exact walk_yields_iff fun p hp => by simpa using (List.mem_filter.1 hp).2

theorem check_breaksOff_iff (hc : Certificate.decode? certificate = some c) :
    (check settings route certificate key points).BreaksOff es ↔
      settings.network.maxResponseSize = noLimit
        ∧ CutWalk settings route (HttpReply.received? settings.network.maxResponseSize) key
          c.serialNumber (DistributionPoint.usable (points.getD c.distributionPoints)) es := by
  rw [check_eq hc]
  exact walk_breaksOff_iff fun p hp => by simpa using (List.mem_filter.1 hp).2

/-- With any limit but the greatest every check comes to an outcome. -/
theorem not_check_breaksOff (hm : settings.network.maxResponseSize ≠ noLimit) :
    ¬ (check settings route certificate key points).BreaksOff es := by
  intro h
  rcases hc : Certificate.decode? certificate with _ | c
  · rw [check, hc] at h
    exact Inquiry.not_breaksOff_pure h
  · exact hm ((check_breaksOff_iff hc).1 h).1

section Single

variable {point : String} {uri : Uri}

/-- With the greatest limit, the check of one point on the web breaks off at a successful reply. -/
theorem run_check_single (hc : Certificate.decode? certificate = some c)
    (hm : settings.network.maxResponseSize = noLimit)
    (ho : ¬ "ocsp".toList <:+: point.toList) (hw : DistributionPoint.IsWeb point)
    (hu : Uri.parse? point = some uri) {reply : HttpReply} (hs : reply.isSuccess = true) :
    let i := check settings route certificate key (some [point])
    (i.run (alwaysReply reply) ()).1 = none
      ∧ i.transcript (alwaysReply reply) ()
        = [⟨.fetch route.http ⟨.get, uri, [], []⟩, .ok reply⟩] := by
  have hr : ofReply settings.network point (.ok reply) = none :=
    ofReply_eq_none_iff.2 ⟨hm, reply, rfl, hs⟩
  rw [check_eq hc, Option.getD_some, DistributionPoint.usable_singleton ho, walk_cons ho,
    download_of_isWeb hw, hu]
  show (Inquiry.run _ (Inquiry.ofOption (ofReply settings.network point (.ok reply)) >>= _
      >>= _) ()).1 = none
    ∧ _ :: Inquiry.transcript _ (Inquiry.ofOption (ofReply settings.network point (.ok reply)) >>= _
      >>= _) () = _
  rw [hr]
  exact ⟨rfl, rfl⟩

end Single

/-- A check that comes to an outcome walks over the usable points, as long as every reply can be
read, of which a reply brings what its reader gets; one that breaks off does so with the greatest
limit, at a reply that cannot be read.  So every check comes to an outcome, and walks with replies
that bring their bodies if they are successful, complete, within the limit and not empty, exactly if
the limit is not the greatest. -/
theorem check_walks_iff (hc : Certificate.decode? certificate = some c) (settings : Settings) :
    (∀ route key points es,
      (∀ o, (check settings route certificate key points).Yields es o ↔
        Walk settings route (HttpReply.received? settings.network.maxResponseSize) key
            c.serialNumber {} (DistributionPoint.usable (points.getD c.distributionPoints)) es o
          ∧ AllRead settings.network.maxResponseSize es)
      ∧ ((check settings route certificate key points).BreaksOff es ↔
        settings.network.maxResponseSize = noLimit
          ∧ CutWalk settings route (HttpReply.received? settings.network.maxResponseSize) key
            c.serialNumber (DistributionPoint.usable (points.getD c.distributionPoints)) es))
    ∧ ((∀ {σ : Type} (servers : (q : Question) → σ → q.Answer × σ) (s : σ) route key points,
        ∃ o, ((check settings route certificate key points).run servers s).1 = some o
          ∧ Walk settings route (HttpReply.content? settings.network.maxResponseSize) key
            c.serialNumber {} (DistributionPoint.usable (points.getD c.distributionPoints))
            ((check settings route certificate key points).transcript servers s) o
          ∧ ((check settings route certificate key points).run servers s).2.1
            = ((check settings route certificate key points).transcript servers s).map (·.1))
      ↔ settings.network.maxResponseSize ≠ noLimit) := by
  refine ⟨fun route key points es => ⟨fun o => check_yields_iff hc, check_breaksOff_iff hc⟩,
    fun h hm => ?_, fun hm => ?_⟩
  · obtain ⟨uri, hu⟩ : ∃ uri, Uri.parse? "http://c/" = some uri :=
      Option.isSome_iff_exists.1 (by decide +kernel)
    have ho : ¬ "ocsp".toList <:+: "http://c/".toList := by decide +kernel
    have hw : DistributionPoint.IsWeb "http://c/" :=
      DistributionPoint.isWeb_iff.2 (.inl (by decide +kernel))
    obtain ⟨o, hrun, -⟩ := h (alwaysReply ⟨200, ⟨[[0]], none⟩⟩) () ⟨.checked, .checked⟩ none
      (some ["http://c/"])
    rw [(run_check_single hc hm ho hw hu rfl).1] at hrun
    cases hrun
  · intro σ servers s route key points
    obtain ⟨o, ho⟩ := Inquiry.exists_run_eq servers (fun es => not_check_breaksOff hm) s
    have hwalk := ((check_yields_iff hc).1 (Inquiry.yields_transcript servers ho)).1
    have hbody : HttpReply.received? settings.network.maxResponseSize
        = HttpReply.content? settings.network.maxResponseSize :=
      funext (HttpReply.received?_of_ne hm)
    exact ⟨o, ho, hbody ▸ hwalk, Inquiry.run_asked servers _ s⟩

end

/-- A certificate that a revocation list names. -/
def listedCertificate : Bytes := [
    0x308201773082011ca00302010202021001300a06082a8648ce3d0403023032310b30090603550406,
    0x0c024543310e300c060355040a0c0542414e434f3113301106035504030c0a535542434120544553,
    0x54301e170d3235303130313030303030305a170d3335303130313030303030305a301c310b300906,
    0x035504060c024543310d300b06035504030c044a55414e3059301306072a8648ce3d020106082a86,
    0x48ce3d030107034200042b08c055671821d3e77f4abdee2994eef29ac2892a88834dd695157588fb,
    0xa84996bdc159932eeddabe047e08bb820b8f7ba76916d22dcc439e31c34ed45d19a5a3383036301a,
    0x060a2b0601040182a83b0301040c0c0a3137313233343536373830180603551d200411300f300d06,
    0x0b2b0601040182a83b020101300a06082a8648ce3d0403020349003046022100fef756d4d246b051,
    0x56f65ade63f3a31c550d4c2a7398a42b82bb4e92e83bf6e9022100886ec93278eedda2147df3ad77
  ].flatMap (Bytes.ofNat 40) ++ Bytes.ofNat 19 0x084d5a4ea51bae2cd578363e28538676c6b647

/-- A revocation list that names that certificate. -/
def listingEncoding : Bytes := [
    0x3081893078020101300a06082a8648ce3d0403023032310b300906035504060c024543310e300c06,
    0x0355040a0c0542414e434f3113301106035504030c0a53554243412054455354170d323530363031,
    0x3030303030305a170d3335303630313030303030305a3015301302021001170d3235303630313030
  ].flatMap (Bytes.ofNat 40) ++ Bytes.ofNat 20 0x303030305a300a06082a8648ce3d040302030100

def listingPoint : String := "http://crl1.invalid/a.crl"

theorem listingEncoding_lists :
    ∃ c l, Certificate.decode? listedCertificate = some c ∧ IsListOf none listingEncoding l
      ∧ l.lists c.serialNumber = true := by
  obtain ⟨c, hc⟩ : ∃ c, Certificate.decode? listedCertificate = some c :=
    Option.isSome_iff_exists.1 (by decide +kernel)
  obtain ⟨l, hl⟩ : ∃ l, decode? listingEncoding = some l :=
    Option.isSome_iff_exists.1 (by decide +kernel)
  have hs : (Certificate.decode? listedCertificate).bind (fun c =>
      (decode? listingEncoding).map (·.lists c.serialNumber)) = some true := by decide +kernel
  simp only [hc, hl, Option.bind_some, Option.map_some, Option.some.injEq] at hs
  exact ⟨c, l, hc, ⟨hl, fun k hk => by cases hk⟩, hs⟩

/-- The check of that certificate against that list, with some limit. -/
def listingCheck (limit : UInt64) : Inquiry Outcome :=
  check { network := { maxResponseSize := limit } } ⟨.checked, .checked⟩ listedCertificate none
    (some [listingPoint])

def listingServers : (q : Question) → Unit → q.Answer × Unit :=
  alwaysReply ⟨200, ⟨[listingEncoding], none⟩⟩

theorem listingCheck_revoked :
    ∃ c, Certificate.decode? listedCertificate = some c
      ∧ Walk { network := { maxResponseSize := 200 } } ⟨.checked, .checked⟩
        (HttpReply.content? 200) none c.serialNumber {} (DistributionPoint.usable [listingPoint])
        ((listingCheck 200).transcript listingServers ()) .revoked := by
  obtain ⟨c, hc⟩ : ∃ c, Certificate.decode? listedCertificate = some c :=
    Option.isSome_iff_exists.1 (by decide +kernel)
  have ho : ((listingCheck 200).run listingServers ()).1 = some .revoked := by decide +kernel
  obtain ⟨o, hrun, hw, -⟩ :=
    (check_walks_iff hc { network := { maxResponseSize := 200 } }).2.2 (by decide)
      listingServers () ⟨.checked, .checked⟩ none (some [listingPoint])
  cases ho.symm.trans hrun
  exact ⟨c, hc, hw⟩

/-- With the greatest limit the list is handed out and not read: the walk ends with the certificate
revoked, and the check breaks off. -/
theorem listingCheck_misses_listed :
    ∃ c, Certificate.decode? listedCertificate = some c
      ∧ Walk { network := { maxResponseSize := noLimit } } ⟨.checked, .checked⟩
        (HttpReply.content? noLimit) none c.serialNumber {}
        (DistributionPoint.usable [listingPoint])
        ((listingCheck noLimit).transcript listingServers ()) .revoked
      ∧ ((listingCheck noLimit).run listingServers ()).1 = none := by
  obtain ⟨c, l, hc, hi, hs⟩ := listingEncoding_lists
  obtain ⟨uri, hu⟩ : ∃ uri, Uri.parse? listingPoint = some uri :=
    Option.isSome_iff_exists.1 (by decide +kernel)
  have ho : ¬ "ocsp".toList <:+: listingPoint.toList := by decide +kernel
  have hw : DistributionPoint.IsWeb listingPoint :=
    DistributionPoint.isWeb_iff.2 (.inl (by decide +kernel))
  have hb : HttpReply.content? noLimit ⟨200, ⟨[listingEncoding], none⟩⟩ = some listingEncoding := by
    decide +kernel
  obtain ⟨hrun, htranscript⟩ : ((listingCheck noLimit).run listingServers ()).1 = none
      ∧ (listingCheck noLimit).transcript listingServers ()
        = [⟨.fetch .checked ⟨.get, uri, [], []⟩, .ok ⟨200, ⟨[listingEncoding], none⟩⟩⟩] :=
    run_check_single hc rfl ho hw hu rfl
  refine ⟨c, hc, ?_, hrun⟩
  rw [htranscript, DistributionPoint.usable_singleton ho]
  refine walk_cons_iff.2 ⟨_, rfl, .fetched hw hu (.ok ⟨200, ⟨[listingEncoding], none⟩⟩),
    .inr (.inl ⟨listingEncoding, l, ?_, hi, hs, rfl, rfl⟩)⟩
  simp only [Except.toOption, Option.bind_some, hb]

end RevocationList

end SignerTrust
