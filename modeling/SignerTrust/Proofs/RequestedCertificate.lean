import SignerTrust.Proofs.Authentic
import SignerTrust.Proofs.DistinguishedName
import SignerTrust.Proofs.RequestSize

/-!
# The certificate that a request asks about

A request is read back as one question, without a signature, and the question is about the
certificate: the serial number is that of the certificate, and the digest of the issuer's key is
that of the bits in the issuer's certificate (`make_asks`).  The digest of the issuer's name is that
of what was read of the name.  It is the name in the certificate exactly if the strict reader takes
all its attributes; a name with an attribute that it passes over is not the one asked about
(`make_of_wideIssuer`).
-/

namespace SignerTrust

open Canonical Der

theorem Der.testBit_of_lt_trailingZeros {b : UInt8} {i : Nat} (h : i < trailingZeros b)
    (hi : i < 8) : b.toNat.testBit i = false := by
  unfold trailingZeros at h
  rcases hf : (List.range 8).find? (fun i => b.toNat.testBit i) with _ | k
  · simpa using List.find?_eq_none.1 hf i (List.mem_range.2 hi)
  · rw [hf, Option.getD_some] at h
    obtain ⟨-, -, hbefore⟩ := List.find?_range_eq_some.1 hf
    simpa using hbefore i h

/-- A byte whose unused bits are zero is not changed when they are cleared. -/
theorem Canonical.clearLow_of_le_trailingZeros {b : UInt8} {u : Nat} (h : u ≤ trailingZeros b)
    (hu : u ≤ 8) : clearLow u b = b := by
  have hn : b.toNat >>> u <<< u = b.toNat := by
    refine Nat.eq_of_testBit_eq fun i => ?_
    rw [Nat.testBit_shiftLeft]
    by_cases hi : u ≤ i
    · simp [hi, Nat.testBit_shiftRight]
    · rw [testBit_of_lt_trailingZeros (by omega) (by omega)]
      simp [hi]
  rw [clearLow, hn, UInt8.ofNat_toNat]

/-- The data of a bit string is its content behind the number of unused bits, if these are zero. -/
theorem Canonical.data_of_bits? {content : Bytes} {b : Bits} (h : bits? content = some b)
    (hz : (BitString.ofContent? content).isSome = true) : b.data = content.tail := by
  rcases content with _ | ⟨u, data⟩
  · cases h
  rw [bits?] at h
  split at h
  · cases h
  rename_i hu
  rw [BitString.ofContent?] at hz
  rcases hl : data.getLast? with _ | last <;> simp only [hl] at h hz
  · split_ifs at h
    cases h
    exact (List.getLast?_eq_none_iff.1 hl).symm
  · split_ifs at hz with hle
    · have hsmall := UInt8.le_iff_toNat_le.1 (UInt8.not_lt.1 hu)
      have hclear := clearLow_of_le_trailingZeros hle (Nat.le_trans hsmall (by decide))
      cases h
      show data.dropLast ++ [clearLow u.toNat last] = data
      rw [hclear]
      exact List.dropLast_append_getLast? last hl
    · cases hz

/-- Whether a name in a request is that of a certificate, told by the bytes of its own and of its
issuer's certificate.  Of the name of the issuer there is what the strict reader takes. -/
structure CertId.Names (id : CertId) (certificate issuer : Bytes) : Prop where
  digest : id.digestAlgorithm = ⟨[1, 3, 14, 3, 2, 26], some [0x05, 0x00]⟩
  serial : ∃ e, CertificateField.serial? certificate = some e
    ∧ twosComplement? e.content = some id.serial
  issuerKey : ∃ e, CertificateField.keyBits? issuer = some e
    ∧ ((BitString.ofContent? e.content).isSome = true →
      id.issuerKey = Digest.sha1.hash e.content.tail)
  issuerName : ∃ e, CertificateField.subject? issuer = some e
    ∧ ∀ n : DistinguishedName, e.encoding = n.encode →
      id.issuerName = Digest.sha1.hash n.read.encode ∧ (n.read.encode = e.encoding ↔ n.IsReadable)

theorem CertId.names_about {certificate issuer : Bytes} {c i : Canonical.Certificate}
    (hc : Canonical.Certificate.decode? certificate = some c)
    (hi : Canonical.Certificate.decode? issuer = some i) (hl : issuer.length < 2 ^ 63) :
    Names (.about c i) certificate issuer := by
  obtain ⟨hserial, -, -⟩ := Canonical.Certificate.decode?_fields hc
  obtain ⟨-, ⟨subject, hs, hrun⟩, key, hk, hbits⟩ := Canonical.Certificate.decode?_fields hi
  have hlen := (CertificateField.field?_infix hs).2.length_le
  have hsize : UInt64.size = 2 ^ 64 := rfl
  have hfits : Fits subject.encoding := by
    unfold Fits
    omega
  refine ⟨rfl, hserial, ⟨key, hk, fun hz => ?_⟩, subject, hs, fun n hn => ?_⟩
  · rw [CertId.about, data_of_bits? hbits hz]
  · rw [hn] at hfits hrun ⊢
    rw [← List.append_nil n.encode] at hrun
    obtain ⟨hread, -⟩ := DistinguishedName.run_name hfits hrun
    exact ⟨by rw [CertId.about, hread], DistinguishedName.encode_read_iff hfits⟩

theorem CertId.sameCertificate_self (id : CertId) : id.sameCertificate id = true := by
  simp [sameCertificate]

namespace StatusRequest

/-- A request about a certificate that can be read, as can that of its issuer, is read back to its
end as one question, unsigned, about that certificate, with a nonce if one is to be sent. -/
theorem make_asks {certificate issuer : Bytes} {c i : Canonical.Certificate}
    (hc : Canonical.Certificate.decode? certificate = some c)
    (hi : Canonical.Certificate.decode? issuer = some i)
    (hcl : certificate.length < 2 ^ 63) (hil : issuer.length < 2 ^ 63)
    {random : Bytes} (hr : random.length = 16) (settings : Settings) :
    ∃ id q asked extensions, CertId.ofEncoded? certificate issuer = some id
      ∧ q = make id (sentNonce settings random)
      ∧ ReceivedRequest.read.run q.encode = (some ⟨0, none, [⟨asked, none⟩], extensions, none⟩, [])
      ∧ asked.sameCertificate q.certificate = true ∧ asked.Names certificate issuer
      ∧ (settings.responders.sendNonce = true →
        q.nonce = some (Der.encode 0x04 random)
        ∧ extensions = some [⟨nonceName, false, Der.encode 0x04 random⟩])
      ∧ (settings.responders.sendNonce = false → q.nonce = none ∧ extensions = none) := by
  have hid := CertId.ofEncoded?_of_decode hc hi
  refine ⟨.about c i, _, .about c i, _, hid, rfl, run_read_sent hc hcl hr,
    CertId.sameCertificate_self _, CertId.names_about hc hi hil, fun hn => ?_, fun hn => ?_⟩
  · rw [make, sentNonce, if_pos hn]
    exact ⟨rfl, rfl⟩
  · rw [make, sentNonce, if_neg (by simp [hn])]
    exact ⟨rfl, rfl⟩

/-- The name of the sample issuer. -/
def sampleName : DistinguishedName where
  sets := [[⟨[0x55, 0x04, 0x03], [0x0c, 0x02, 0x43, 0x41]⟩]]
  kind := by decide
  ordered := by decide

/-- A request about the sample certificate has the digest of its issuer's name as it is written. -/
theorem make_asks_of_sample :
    ∃ id q asked, CertId.ofEncoded? sampleCertificate sampleIssuer = some id
      ∧ q = make id (some Validator.sampleRandom)
      ∧ ReceivedRequest.read.run q.encode = (some ⟨0, none, [⟨asked, none⟩],
        some [⟨nonceName, false, Der.encode 0x04 Validator.sampleRandom⟩], none⟩, [])
      ∧ (CertificateField.subject? sampleIssuer).map (·.encoding) = some sampleName.encode
      ∧ asked.issuerName = Digest.sha1.hash sampleName.encode ∧ asked.serial = 0x1001 := by
  obtain ⟨c, hc⟩ : ∃ c, Canonical.Certificate.decode? sampleCertificate = some c :=
    Option.isSome_iff_exists.1 (by decide +kernel)
  obtain ⟨i, hi⟩ : ∃ i, Canonical.Certificate.decode? sampleIssuer = some i :=
    Option.isSome_iff_exists.1 (by decide +kernel)
  obtain ⟨id, q, asked, extensions, hid, hq, hread, -, hnames, hn, -⟩ := @make_asks
    sampleCertificate sampleIssuer c i hc hi (by decide +kernel) (by decide +kernel)
    Validator.sampleRandom (by decide +kernel) {}
  obtain ⟨-, rfl⟩ := hn rfl
  obtain ⟨e, he, hname⟩ := hnames.issuerName
  obtain ⟨e', he', hserial⟩ := hnames.serial
  have hs : (CertificateField.subject? sampleIssuer).map (·.encoding) = some sampleName.encode := by
    decide +kernel
  have hsubject : e.encoding = sampleName.encode := by simpa [he] using hs
  have hreadable : sampleName.IsReadable := by
    unfold DistinguishedName.IsReadable
    decide +kernel
  obtain ⟨hdigest, hexact⟩ := hname sampleName hsubject
  have hnumber : (CertificateField.serial? sampleCertificate).bind (twosComplement? ·.content)
      = some 0x1001 := by decide +kernel
  rw [he', Option.bind_some, hserial] at hnumber
  refine ⟨id, q, asked, hid, hq, hread, hs, ?_, Option.some.inj hnumber⟩
  rw [hdigest, hexact.2 hreadable, hsubject]

/-- A certificate whose issuer's name ends with an attribute of which the identifier has a number of
`2 ^ 32` or more. -/
def wideCertificate : Bytes := [
    0x308201413081e902021001300a06082a8648ce3d040302303e310b3009060355040613024543310e,
    0x300c060355040a0c0542414e434f311f301d06146983f09da7ebcfdee0c7a1a7b2c0948cc8f9d776,
    0x0c055355424341301e170d3236313132303035353831315a170d3336313131373035353831315a30,
    0x1c310b3009060355040613024543310d300b06035504030c044a55414e3059301306072a8648ce3d,
    0x020106082a8648ce3d0301070342000450af9f5bf637960fea8f378d8e2cd8d4106b6202d92047af,
    0x5b8c97bbf846b6dfa8cf7a056ac3e6bdd905ce6697bf0e12cbfabcd18020fc76a8d78a7cba77c633,
    0x300a06082a8648ce3d040302034700304402205235439477000497dd4e37c8404f40dae37057ba50,
    0x2e8f7a57cc66aff7f552180220106e3276ed25729a5b32d8ecbcb2b87fdb763a58e0d2adbad96ba3
  ].flatMap (Bytes.ofNat 40) ++ Bytes.ofNat 5 0x15fed275c3

/-- The certificate of that issuer. -/
def wideIssuer : Bytes := [
    0x3082019c30820143a003020102020101300a06082a8648ce3d040302303e310b3009060355040613,
    0x024543310e300c060355040a0c0542414e434f311f301d06146983f09da7ebcfdee0c7a1a7b2c094,
    0x8cc8f9d7760c055355424341301e170d3236313132303035353831315a170d333631313137303535,
    0x3831315a303e310b3009060355040613024543310e300c060355040a0c0542414e434f311f301d06,
    0x146983f09da7ebcfdee0c7a1a7b2c0948cc8f9d7760c0553554243413059301306072a8648ce3d02,
    0x0106082a8648ce3d030107034200041884afb4acc1e857c375dc0487436871f29d62eaf426fb9a04,
    0xd920894902e9176fd0a79c186bab8ad82224c83b2b62f8c5d6661d0e6a097c13f2697dab52bfaaa3,
    0x323030300f0603551d130101ff040530030101ff301d0603551d0e0416041408a3345c7b4f5bc02c,
    0xc4f2284808b7b73347e663300a06082a8648ce3d04030203470030440220527066c7ff512e838dbb,
    0x3744db7bbb65763f38e19e4e2f272149d20a0b89253502201c50445b59055f8d9aacee8ff6073020
  ].flatMap (Bytes.ofNat 40) ++ Bytes.ofNat 16 0xf2ad472de7af7a229505ef41fa935a93

/-- The name of that issuer. -/
def wideName : DistinguishedName where
  sets := [
    [⟨[0x55, 0x04, 0x06], [0x13, 0x02, 0x45, 0x43]⟩],
    [⟨[0x55, 0x04, 0x0a], [0x0c, 0x05, 0x42, 0x41, 0x4e, 0x43, 0x4f]⟩],
    [⟨[0x69, 0x83, 0xf0, 0x9d, 0xa7, 0xeb, 0xcf, 0xde, 0xe0, 0xc7, 0xa1, 0xa7, 0xb2, 0xc0, 0x94,
      0x8c, 0xc8, 0xf9, 0xd7, 0x76], [0x0c, 0x05, 0x53, 0x55, 0x42, 0x43, 0x41]⟩]]
  kind := by decide
  ordered := by decide

/-- A request about that certificate has not the digest of its issuer's name as it is written. -/
theorem make_of_wideIssuer :
    ∃ id asked e, CertId.ofEncoded? wideCertificate wideIssuer = some id
      ∧ ReceivedRequest.read.run (make id none).encode
        = (some ⟨0, none, [⟨asked, none⟩], none, none⟩, [])
      ∧ CertificateField.subject? wideIssuer = some e ∧ e.encoding = wideName.encode
      ∧ asked.issuerName ≠ Digest.sha1.hash e.encoding := by
  obtain ⟨c, hc⟩ : ∃ c, Canonical.Certificate.decode? wideCertificate = some c :=
    Option.isSome_iff_exists.1 (by decide +kernel)
  obtain ⟨i, hi⟩ : ∃ i, Canonical.Certificate.decode? wideIssuer = some i :=
    Option.isSome_iff_exists.1 (by decide +kernel)
  have hid : CertId.ofEncoded? wideCertificate wideIssuer = some (.about c i) :=
    CertId.ofEncoded?_of_decode hc hi
  have hread := @run_read_encode (make (.about c i) none) rfl
    (fits_encode hc (by decide +kernel) nofun)
  have hs : (CertificateField.subject? wideIssuer).map (·.encoding) = some wideName.encode := by
    decide +kernel
  obtain ⟨e, he, hsubject⟩ := Option.map_eq_some_iff.1 hs
  have hne : (Canonical.Certificate.decode? wideIssuer).map
      (fun i => Digest.sha1.hash i.subject.encode) ≠ some (Digest.sha1.hash wideName.encode) := by
    decide +kernel
  refine ⟨_, .about c i, e, hid, hread, he, hsubject, fun h => hne ?_⟩
  rw [hi, Option.map_some, ← hsubject, ← h]
  rfl

end StatusRequest

end SignerTrust
