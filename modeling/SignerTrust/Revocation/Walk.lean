import SignerTrust.Certificate.Endpoints
import SignerTrust.Network.Inquiry
import SignerTrust.Outcome
import SignerTrust.Revocation.List
import SignerTrust.Settings.Basic
import SignerTrust.Text.Infix

/-!
# Checking revocation lists

The distribution points of a certificate are visited in order.  A list that names the certificate
ends the walk, and so does a list that cannot be read or whose signature does not hold; a list that
cannot be had does not.
-/

namespace SignerTrust

/-- Why a revocation list cannot be had. -/
inductive DownloadError
  | http (cause : HttpError)
  | status (code : Nat)
  | directory (cause : DirectoryError)
  | unsupportedScheme (point : String)
  | empty
  deriving DecidableEq, Repr

namespace DistributionPoint

/-- What marks a point as one of a status responder. -/
def responderMark : List Char := "ocsp".toList

/-- Whether a point is taken for one of a status responder, which has no revocation list. -/
def isResponder (point : String) : Bool :=
  hasInfix responderMark point.toList

/-- The text before the first `://`. -/
def beforeMark : List Char → Option (List Char)
  | [] => none
  | ':' :: '/' :: '/' :: _ => some []
  | c :: rest => (beforeMark rest).map (c :: ·)

/-- The scheme of a point in lower case; a point without one has the empty scheme. -/
def scheme (point : String) : String :=
  String.ofList (((beforeMark point.toList).getD []).map Char.toLower)

end DistributionPoint

namespace RevocationList

/-- The request for the list at an address. -/
def request (uri : Uri) : HttpRequest :=
  ⟨.get, uri, [], []⟩

/-- What a reply to the request for a list brings, unless reading its body breaks off. -/
def ofReply (settings : NetworkSettings) (point : String) :
    Except HttpError HttpReply → Option (Except DownloadError Bytes)
  | .error e => some (.error (.http e))
  | .ok reply =>
    if !reply.isSuccess then some (.error (.status reply.status))
    else (reply.body.read settings.maxResponseSize point).map fun body => body.mapError .http

/-- An empty list is none. -/
def nonEmpty (r : Except DownloadError Bytes) : Except DownloadError Bytes :=
  match r with
  | .ok [] => .error .empty
  | r => r

/-- Downloads the list at a point. -/
def download (settings : Settings) (route : Route) (point : String) :
    Inquiry (Except DownloadError Bytes) :=
  let scheme := DistributionPoint.scheme point
  if scheme = "http" ∨ scheme = "https" then
    match Uri.parse? point with
    | none => return .error (.http .invalidRequest)
    | some uri => do
      let reply ← Inquiry.fetch route.http (request uri)
      return nonEmpty (← Inquiry.ofOption (ofReply settings.network point reply))
  else if scheme = "ldap" ∨ scheme = "ldaps" then do
    match ← Inquiry.lookUp route.directory point settings.lists.directoryAttribute with
    | .error e => return .error (.directory e)
    | .ok value => return nonEmpty (.ok value)
  else return .error (.unsupportedScheme point)

/-- What a downloaded list tells of a serial number. -/
inductive Finding
  | unusable
  | listed
  | notListed
  deriving DecidableEq, Repr

/-- Examines a downloaded list; its signature is checked if a key is given. -/
def examine [CryptoLibrary] (key : Option Bytes) (serial : Nat) (encoding : Bytes) : Finding :=
  match decode? encoding with
  | none => .unusable
  | some l =>
    let signed := match key with
      | none => true
      | some key => l.verify key matches .ok ()
    if !signed then .unusable
    else if l.lists serial then .listed
    else .notListed

/-- What the points so far have come to. -/
structure Progress where
  checked : Bool := false
  failed : Bool := false
  deriving DecidableEq, Repr

/-- The outcome when all points have been visited. -/
def Progress.outcome (p : Progress) : Outcome :=
  if p.checked then .valid
  else if p.failed then .cannotDownloadCrl
  else .unknown

/-- Visits points in order. -/
def walk [CryptoLibrary] (settings : Settings) (route : Route) (key : Option Bytes) (serial : Nat)
    (progress : Progress) : List String → Inquiry Outcome
  | [] => return progress.outcome
  | point :: rest =>
    if DistributionPoint.isResponder point then walk settings route key serial progress rest
    else do
      match ← download settings route point with
      | .error _ => walk settings route key serial { progress with failed := true } rest
      | .ok encoding =>
        match examine key serial encoding with
        | .unusable => return .serverError
        | .listed => return .revoked
        | .notListed => walk settings route key serial { progress with checked := true } rest

/-- Checks an encoded certificate against the lists of its own distribution points, or of the points
given instead.  If a key is given, the lists must be signed by it. -/
def check [CryptoLibrary] (settings : Settings) (route : Route) (certificate : Bytes)
    (key : Option Bytes) (points : Option (List String)) : Inquiry Outcome :=
  match Certificate.decode? certificate with
  | none => return .corrupt
  | some c => walk settings route key c.serialNumber {} (points.getD c.distributionPoints)

end RevocationList

end SignerTrust
