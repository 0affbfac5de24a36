import SignerTrust.Proofs.CertificateField
import SignerTrust.Proofs.ReceivedRequest
import SignerTrust.Proofs.ResponderAnswer

/-!
# How long a request is

A request is longer than the certificate that it asks about by no more than a constant, as it holds
only its serial number (`length_serial_le`), digests and a nonce.  If the certificate is shorter
than any memory, the lengths in a request therefore fit into 64 bits (`StatusRequest.fits_encode`).
-/

namespace SignerTrust

open Canonical Der

namespace Canonical

/-- The serial number of a certificate is no longer than the certificate. -/
theorem length_serial_le {certificate : Bytes} {c : Certificate}
    (h : Certificate.decode? certificate = some c) :
    (encodeTwosComplement c.serial).length ≤ certificate.length + 1 := by
  obtain ⟨⟨e, he, hn⟩, -⟩ := Certificate.decode?_fields h
  obtain ⟨hc, hi⟩ := CertificateField.field?_infix he
  have hlen := length_encodeTwosComplement_le hn
  have hcontent := (hc.isInfix.trans hi).length_le
  omega

end Canonical

theorem Digest.length_sha1 (message : Bytes) : (sha1.hash message).length = size sha1 := rfl

namespace Der

theorem length_encode_le_of {content : Bytes} {n : Nat} (h : content.length ≤ n)
    (hn : n < UInt64.size) (id : UInt8) : (encode id content).length ≤ n + 10 :=
  Nat.le_trans (length_encode_le (Nat.lt_of_le_of_lt h hn) id) (Nat.add_le_add_right h 10)

end Der

namespace CertId

theorem length_encode_about_le {c issuer : Canonical.Certificate} {n : Nat}
    (h : (encodeTwosComplement c.serial).length ≤ n) (hn : n + 200 < UInt64.size) :
    (about c issuer).encode.length ≤ n + 100 := by
  have ha : (about c issuer).digestAlgorithm.encode.length = 11 := by
    change sha1Id.encode.length = 11
    decide
  have hname := length_encode_le_of
    (Nat.le_of_eq (Digest.length_sha1 issuer.subject.encode)) (by decide) 0x04
  have hkey := length_encode_le_of
    (Nat.le_of_eq (Digest.length_sha1 issuer.publicKey.key.data)) (by decide) 0x04
  have hserial := length_encode_le_of h (by omega) 0x02
  have hsize : Digest.size .sha1 = 20 := rfl
  refine length_encode_le_of (n := n + 90) ?_ (by omega) 0x30
  simp only [List.length_append, ha]
  simp only [about]
  omega

end CertId

namespace StatusRequest

theorem length_extensions_le {random : Option Bytes} (h : ∀ r ∈ random, r.length = nonceLength)
    (id : CertId) : (((make id random).extensions.map fun es =>
      Der.encode 0xa2 (encodeExtensions es)).getD []).length ≤ 100 := by
  rcases random with _ | random
  · exact Nat.zero_le _
  have hr : random.length ≤ 16 := Nat.le_of_eq (h random rfl)
  have ho : (encodeOid nonceName).length = 11 := by decide +kernel
  have hv := @length_encode_le_of random 16 hr (by decide) 0x04
  have hw := @length_encode_le_of (nonceValue random) 26 hv (by decide) 0x04
  have he : (Extension.encode ⟨nonceName, false, nonceValue random⟩).length ≤ 57 := by
    refine @length_encode_le_of _ 47 ?_ (by decide) 0x30
    simp only [Bool.false_eq_true, if_false, List.append_nil, List.length_append, ho]
    omega
  have hs : (encodeExtensions [⟨nonceName, false, nonceValue random⟩]).length ≤ 67 := by
    refine @length_encode_le_of _ 57 ?_ (by decide) 0x30
    simpa using he
  exact Nat.le_trans (@length_encode_le_of _ 67 hs (by decide) 0xa2) (by decide)

/-- The lengths in a request about a certificate fit into 64 bits, if that of the certificate is
one of a byte string in memory. -/
theorem fits_encode {certificate : Bytes} {random : Option Bytes}
    {c issuer : Canonical.Certificate} (hc : Canonical.Certificate.decode? certificate = some c)
    (hl : certificate.length < 2 ^ 63) (hr : ∀ r ∈ random, r.length = nonceLength) :
    Fits (make (.about c issuer) random).encode := by
  have hserial := length_serial_le hc
  have hx := length_extensions_le hr (.about c issuer)
  have hsize : UInt64.size = 2 ^ 64 := rfl
  have hid := @CertId.length_encode_about_le c issuer _ hserial (by omega)
  have he := length_encode_le_of hid (by omega) 0x30
  have hes := length_encode_le_of he (by omega) 0x30
  have hv : (Certificate.encodeVersion 0).length = 5 := by decide
  have hcontent : (Certificate.encodeVersion 0
      ++ Der.encode 0x30 (Der.encode 0x30 (make (.about c issuer) random).certificate.encode)
      ++ ((make (.about c issuer) random).extensions.map fun es =>
        Der.encode 0xa2 (encodeExtensions es)).getD []).length ≤ certificate.length + 226 := by
    simp only [List.length_append, hv]
    exact Nat.le_trans (Nat.add_le_add (Nat.add_le_add_left hes 5) hx) (by omega)
  have hu := length_encode_le_of hcontent (by omega) 0x30
  exact Nat.lt_of_le_of_lt (length_encode_le_of hu (by omega) 0x30) (by omega)

/-- Of the request that is sent about a certificate that fits into memory, a responder reads the
certificate and the nonce, if one is sent, and nothing else. -/
theorem run_read_sent {settings : Settings} {random certificate : Bytes}
    {c issuer : Canonical.Certificate} (hc : Canonical.Certificate.decode? certificate = some c)
    (hl : certificate.length < 2 ^ 63) (hr : random.length = nonceLength) :
    ReceivedRequest.read.run (make (.about c issuer) (sentNonce settings random)).encode
      = (some ⟨0, none, [⟨.about c issuer, none⟩], (sentNonce settings random).map fun bytes =>
        [⟨nonceName, false, nonceValue bytes⟩], none⟩, []) := by
  have hf := @fits_encode certificate (sentNonce settings random) c issuer hc hl
  have hrandom : ∀ r ∈ sentNonce settings random, r.length = nonceLength := fun r h => by
    unfold sentNonce at h
    split_ifs at h
    · exact Option.some.inj h ▸ hr
    · cases h
  rw [run_read_encode rfl (hf hrandom)]
  simp only [received, make, Option.map_map, Function.comp_def]

end StatusRequest

end SignerTrust
