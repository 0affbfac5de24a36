import SignerTrust.Proofs.Reads
import SignerTrust.Status.Response

/-!
# Requests as a responder reads them

A responder reads a request by the same strict rules by which its response is read.  What it reads
of a request that was sent is what the request was made of: one entry, for the certificate asked
about, and the nonce extension, if there is one (`StatusRequest.run_read_encode`).
-/

namespace SignerTrust

open Canonical.Reader (sequence sequenceOf explicit optionally anything Reads)

/-- What a request asks about one certificate. -/
structure RequestEntry where
  certificate : CertId
  extensions : Option (List Canonical.Extension)
  deriving DecidableEq, Repr

/-- A request as it is received; requestor and signature are kept as they were written. -/
structure ReceivedRequest where
  version : Nat
  requestor : Option Bytes
  entries : List RequestEntry
  extensions : Option (List Canonical.Extension)
  signature : Option Bytes
  deriving DecidableEq, Repr

namespace ReceivedRequest

/-- Reads what is asked about one certificate. -/
def readEntry : Canonical.Reader RequestEntry :=
  sequence do
    let certificate ← CertId.read
    let extensions ← optionally (explicit 0 (sequenceOf Canonical.extension))
    return ⟨certificate, extensions⟩

/-- Reads a request without its signature. -/
def readUnsigned : Canonical.Reader (Option Bytes → ReceivedRequest) :=
  sequence do
    let version ← optionally (explicit 0 Canonical.versionNumber)
    let requestor ← optionally (explicit 1 anything)
    let entries ← sequenceOf readEntry
    let extensions ← optionally (explicit 2 (sequenceOf Canonical.extension))
    return fun signature =>
      ⟨version.getD 0, requestor.map (·.encoding), entries, extensions, signature⟩

/-- Reads a request. -/
def read : Canonical.Reader ReceivedRequest :=
  sequence do
    let unsigned ← readUnsigned
    let signature ← optionally (explicit 0 anything)
    return unsigned (signature.map (·.encoding))

/-- The request at the front of a byte string. -/
def decode? (bytes : Bytes) : Option ReceivedRequest :=
  read.decode? bytes

/-- The nonce of a request: the value of its first nonce extension. -/
def nonce? (r : ReceivedRequest) : Option Bytes :=
  ((r.extensions.getD []).find? fun e => e.name = StatusRequest.nonceName).map (·.value)

end ReceivedRequest

namespace Canonical

open Reader (Needs)

/-- An extension that is not critical is read back, if its name is. -/
theorem reads_extension {name : Arcs} {value : Bytes}
    (ha : arcs? (Oid.ofArcs name).content = some name)
    (h : Der.Fits (Extension.encode ⟨name, false, value⟩)) :
    Reads extension (Extension.encode ⟨name, false, value⟩) ⟨name, false, value⟩ := by
  simp only [Extension.encode, Bool.false_eq_true, if_false, List.append_nil] at h ⊢
  refine Reader.reads_sequence h.content ?_
  refine (Reader.reads_oid h.content.left.content ha).run_bind ?_
  have hb : Needs .universal Der.Tag.boolean boolean := (Reader.needs_primitive _).bind _
  have hvalue : Der.Fits value := h.content.right.content
  rw [← List.append_nil (Der.encode 0x04 value), hb.run_absent (by decide) (by decide) hvalue,
    List.append_nil]
  exact (Reader.reads_octets hvalue).run_bind_nil rfl

end Canonical

namespace CertId

open Canonical

theorem reads_sha1Id : Reads algorithmId sha1Id.encode sha1Id :=
  Reader.reads_sequence (by unfold Der.Fits; decide) (by decide +kernel)

/-- The name of a certificate is read back. -/
theorem reads_read {id : CertId} (hd : id.digestAlgorithm = sha1Id) (h : Der.Fits id.encode) :
    Reads read id.encode id := by
  unfold encode at h ⊢
  have hc := h.content
  rw [hd] at hc ⊢
  refine Reader.reads_sequence hc ?_
  rw [List.append_assoc, List.append_assoc] at hc ⊢
  refine reads_sha1Id.run_bind ?_
  refine (Reader.reads_octets hc.right.left.content).run_bind ?_
  refine (Reader.reads_octets hc.right.right.left.content).run_bind ?_
  refine (Reader.reads_integer hc.right.right.right.content).run_bind_nil ?_
  rw [← hd]
  rfl

end CertId

namespace ReceivedRequest

open Canonical

/-- An entry without extensions, as it is written. -/
def writeEntry (e : RequestEntry) : Bytes :=
  Der.encode 0x30 e.certificate.encode

theorem reads_readEntry {id : CertId} (hd : id.digestAlgorithm = CertId.sha1Id)
    (h : Der.Fits id.encode) : Reads readEntry (writeEntry ⟨id, none⟩) ⟨id, none⟩ := by
  refine Reader.reads_sequence h ((CertId.reads_read hd h).run_bind_nil ?_)
  rw [(Reader.needs_explicit 0 _).run_absent_nil]
  rfl

theorem reads_entries {id : CertId} (hd : id.digestAlgorithm = CertId.sha1Id)
    (h : Der.Fits (Der.encode 0x30 id.encode)) :
    Reads (sequenceOf readEntry) (Der.encode 0x30 (Der.encode 0x30 id.encode)) [⟨id, none⟩] := by
  refine Reader.reads_sequence h ?_
  have hr := @Reader.run_repeated _ readEntry writeEntry (Reader.needs_sequence _).run_nil
    (fun _ => Der.encode_ne_nil _ _) [⟨id, none⟩]
    (by simpa using reads_readEntry hd h.content)
  simpa [writeEntry] using hr

theorem arcs?_nonceName : arcs? (Oid.ofArcs StatusRequest.nonceName).content
    = some StatusRequest.nonceName := by
  decide +kernel

theorem reads_nonce {value : Bytes}
    (h : Der.Fits (encodeExtensions [⟨StatusRequest.nonceName, false, value⟩])) :
    Reads (sequenceOf extension) (encodeExtensions [⟨StatusRequest.nonceName, false, value⟩])
      [⟨StatusRequest.nonceName, false, value⟩] := by
  have hf : Der.Fits (Extension.encode ⟨StatusRequest.nonceName, false, value⟩) := by
    simpa [encodeExtensions] using h.content
  refine Reader.reads_sequence h.content ?_
  refine Reader.run_repeated (Reader.needs_sequence _).run_nil (fun _ => Der.encode_ne_nil _ _) ?_
  exact List.forall_mem_singleton.2 (reads_extension arcs?_nonceName hf)

theorem reads_version : Reads (explicit 0 versionNumber) (Certificate.encodeVersion 0) 0 :=
  Reader.reads_explicit (by decide) (by unfold Der.Fits; decide) (by decide +kernel)

end ReceivedRequest

namespace StatusRequest

open Canonical

/-- What a responder reads of a request: the certificate asked about, and the nonce. -/
def received (r : StatusRequest) : ReceivedRequest :=
  ⟨0, none, [⟨r.certificate, none⟩], r.nonce.map fun value => [⟨nonceName, false, value⟩], none⟩

/-- A request that is not too long is read back, and nothing is left of it. -/
theorem run_read_encode {r : StatusRequest} (hd : r.certificate.digestAlgorithm = CertId.sha1Id)
    (h : Der.Fits r.encode) : ReceivedRequest.read.run r.encode = (some r.received, []) := by
  have hu : Reads ReceivedRequest.readUnsigned (Der.encode 0x30 (Certificate.encodeVersion 0
      ++ Der.encode 0x30 (Der.encode 0x30 r.certificate.encode)
      ++ (r.extensions.map fun es => Der.encode 0xa2 (encodeExtensions es)).getD []))
      (fun signature => ⟨0, none, [⟨r.certificate, none⟩], r.extensions, signature⟩) := by
    have hf := h.content.content
    refine Reader.reads_sequence hf ?_
    rw [List.append_assoc] at hf ⊢
    refine ReceivedRequest.reads_version.optionally.run_bind ?_
    rw [(Reader.needs_explicit 1 _).run_absent (by decide) (by decide) hf.right.left.content]
    refine (ReceivedRequest.reads_entries hd hf.right.left.content).run_bind ?_
    have hx := hf.right.right
    rcases hn : r.nonce with _ | value <;>
      simp only [extensions, hn, Option.map_none, Option.map_some, Option.getD_none,
        Option.getD_some] at hx ⊢
    · rw [(Reader.needs_explicit 2 _).run_absent_nil]
      rfl
    · have he := ReceivedRequest.reads_nonce hx.content
      exact (Reader.reads_explicit (by decide) hx.content he.run_eq).optionally.run_bind_nil rfl
  refine (Reader.reads_sequence h.content (hu.run_bind_nil ?_)).run_eq
  rw [(Reader.needs_explicit 0 _).run_absent_nil]
  rfl

end StatusRequest

end SignerTrust
