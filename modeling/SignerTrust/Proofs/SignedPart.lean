import SignerTrust.Proofs.Accepted
import SignerTrust.Proofs.CanonicalReader
import SignerTrust.Signature.Reference

/-!
# What is read is what was signed

A signed response is an outer sequence whose first component is the signed part.  The bytes that the
signature is checked over are cut out by reading two elements, the status is taken from the
structure that the canonical reader builds; the two agree: the bytes are the whole encoding of the
first component, and read on their own they give the data that the response holds
(`decode?_signedPart`).  Responses with one signed part therefore hold the same data, whatever their
other bytes are.
-/

namespace SignerTrust

open Der

namespace BasicResponse

theorem run_read {bytes rest : Bytes} {r : BasicResponse} (h : read.run bytes = (some r, rest)) :
    ∃ outer after, Element.read? bytes = some (outer, rest) ∧ outer.isUniversal Tag.sequence = true
      ∧ outer.constructed = true ∧ ResponseData.read.run outer.content = (some r.data, after) := by
  obtain ⟨outer, ho, hc, ht, hcons, h⟩ := Canonical.Reader.run_constructed.1 h
  obtain ⟨data, after, hd, h⟩ := Canonical.Reader.run_bind.1 h
  obtain ⟨algorithm, r₁, -, h⟩ := Canonical.Reader.run_bind.1 h
  obtain ⟨signature, r₂, -, h⟩ := Canonical.Reader.run_bind.1 h
  obtain ⟨certificates, r₃, -, h⟩ := Canonical.Reader.run_bind.1 h
  obtain ⟨rfl, -⟩ := Canonical.Reader.run_pure.1 h
  exact ⟨outer, after, ho, by simp [Element.isUniversal, hc, ht], hcons, hd⟩

/-- The signed part of a response that can be read is the first component of its outer sequence,
whole and in place, and reads on its own as the data of the response. -/
theorem decode?_signedPart {bytes : Bytes} {r : BasicResponse} (h : decode? bytes = some r) :
    ∃ outer rest first after, Element.read? bytes = some (outer, rest)
      ∧ outer.isUniversal Tag.sequence = true ∧ outer.constructed = true
      ∧ Element.read? outer.content = some (first, after)
      ∧ Element.read? first.encoding = some (first, [])
      ∧ outer.content = first.encoding ++ after
      ∧ (∃ header, bytes = header ++ first.encoding ++ after ++ rest)
      ∧ signedPart? bytes = some first.encoding
      ∧ ResponseData.read.run first.encoding = (some r.data, []) := by
  obtain ⟨rest, h⟩ := Canonical.Reader.decode?_eq_some.1 h
  obtain ⟨outer, after, ho, hu, hc, hd⟩ := run_read h
  obtain ⟨first, hf, hcontent, hdata⟩ := Canonical.Reader.run_sequence_slice hd
  obtain ⟨hb, ⟨header, henc⟩, -⟩ := Element.read?_slice ho
  have hself : Element.read? first.encoding = some (first, []) := by
    simpa using (Element.read?_slice hf).2.2 []
  refine ⟨outer, rest, first, after, ho, hu, hc, hf, hself, hcontent, ⟨header, ?_⟩, ?_, hdata⟩
  · rw [hb, henc, hcontent]
    simp only [List.append_assoc]
  · simp only [signedPart?, ho, hf, Option.bind_eq_bind, Option.bind_some, Option.pure_def]

/-- Responses with one signed part hold the same data. -/
theorem data_eq_of_signedPart {bytes bytes' : Bytes} {r r' : BasicResponse}
    (h : decode? bytes = some r) (h' : decode? bytes' = some r')
    (hs : signedPart? bytes' = signedPart? bytes) : r'.data = r.data := by
  obtain ⟨-, -, first, -, -, -, -, -, -, -, -, hp, hd⟩ := decode?_signedPart h
  obtain ⟨-, -, first', -, -, -, -, -, -, -, -, hp', hd'⟩ := decode?_signedPart h'
  rw [hp, hp', Option.some.injEq] at hs
  rw [hs, hd] at hd'
  simp only [Prod.mk.injEq, Option.some.injEq, and_true] at hd'
  exact hd'.symm

theorem nonce?_congr {r r' : BasicResponse} (h : r'.data = r.data) : r'.nonce? = r.nonce? := by
  rw [nonce?, nonce?, h]

theorem statusOf_congr {r r' : BasicResponse} (h : r'.data = r.data) (id : CertId) :
    r'.statusOf id = r.statusOf id := by
  rw [statusOf, statusOf, h]

/-- What is read of a response is what was signed: the signed part is a slice that is the whole
encoding of the first component of the outer sequence, cut off within its bounds, and read on its
own it gives the data of the response.  Two responses that count and have one signed part repeat one
nonce and tell one status, whatever else they hold. -/
theorem signedPart_is_what_is_read [CryptoLibrary] {bytes : Bytes} {r : BasicResponse}
    (h : decode? bytes = some r) :
    (∃ outer rest first after, Element.read? bytes = some (outer, rest)
      ∧ outer.isUniversal Tag.sequence = true ∧ outer.constructed = true
      ∧ Element.read? outer.content = some (first, after)
      ∧ after.length ≤ outer.content.length
      ∧ signedPart? bytes = some (outer.content.take (outer.content.length - after.length))
      ∧ signedPart? bytes = some first.encoding
      ∧ Element.read? first.encoding = some (first, [])
      ∧ (∃ header, bytes = header ++ first.encoding ++ after ++ rest)
      ∧ ResponseData.read.run first.encoding = (some r.data, []))
    ∧ ∀ {kind kind' : Canonical.Arcs} {bytes' : Bytes} {x x' : Expectation} {o o' : Outcome},
      StatusResponse.verified (some (kind, bytes)) x = .ok o →
      StatusResponse.verified (some (kind', bytes')) x' = .ok o' →
      signedPart? bytes' = signedPart? bytes →
      ∃ r', decode? bytes' = some r' ∧ r'.data = r.data ∧ r'.nonce? = r.nonce?
        ∧ (∀ id, r'.statusOf id = r.statusOf id) ∧ (x'.certificate = x.certificate → o' = o) := by
  constructor
  · obtain ⟨outer, rest, first, after, ho, hu, hc, hf, hself, hcontent, hb, hp, hd⟩ :=
      decode?_signedPart h
    have hlen : outer.content.length = first.encoding.length + after.length := by
      rw [hcontent, List.length_append]
    refine ⟨outer, rest, first, after, ho, hu, hc, hf, by omega, ?_, hp, hself, hb, hd⟩
    rw [hp, hlen, Nat.add_sub_cancel, hcontent, List.take_left' rfl]
  · intro kind kind' bytes' x x' o o' hv hv' hs
    obtain ⟨r₁, ⟨_, _, hb, hr, -, -⟩, rfl⟩ := StatusResponse.verified_eq_ok_iff.1 hv
    obtain ⟨r', ⟨_, _, hb', hr', -, -⟩, rfl⟩ := StatusResponse.verified_eq_ok_iff.1 hv'
    cases hb
    cases hb'
    obtain rfl : r = r₁ := Option.some.inj (h.symm.trans hr)
    have hdata := data_eq_of_signedPart h hr' hs
    refine ⟨r', hr', hdata, nonce?_congr hdata, statusOf_congr hdata, fun hx => ?_⟩
    rw [hx, statusOf_congr hdata]

/-- A signed response about one certificate, its signature, and the key that it is signed with. -/
def sampleResponse : Bytes := [
    0x3081fb3081a6a2160414c6bd963af30fbbba4513acd030944becf5e620a0180f3230323530363031,
    0x3030303030305a30623060303a300906052b0e03021a05000414711d397671c9facf224209592597,
    0x9a0698e46b110414c6bd963af30fbbba4513acd030944becf5e620a0020107a111180f3230323530,
    0x3530313030303030305a180f32303235303630313030303030305aa1173015301306092b06010505,
    0x073001020406040401020304300d06092a864886f70d01010b050003410060a0e61b7d21ef2b84e7,
    0x6686943947f37581c2da6af4ebb084c06f7ad12c23588e2d3e98effeeb0e6daecd0020077fbc2601
  ].flatMap (Bytes.ofNat 40) ++ Bytes.ofNat 14 0xeb4b1432181eee050780565fb2e8

/-- The same signed part with its algorithm written otherwise, and a byte after it. -/
def sampleRewritten : Bytes := [
    0x3081f93081a6a2160414c6bd963af30fbbba4513acd030944becf5e620a0180f3230323530363031,
    0x3030303030305a30623060303a300906052b0e03021a05000414711d397671c9facf224209592597,
    0x9a0698e46b110414c6bd963af30fbbba4513acd030944becf5e620a0020107a111180f3230323530,
    0x3530313030303030305a180f32303235303630313030303030305aa1173015301306092b06010505,
    0x073001020406040401020304300b06092a864886f70d01010b03410060a0e61b7d21ef2b84e76686,
    0x943947f37581c2da6af4ebb084c06f7ad12c23588e2d3e98effeeb0e6daecd0020077fbc2601eb4b
  ].flatMap (Bytes.ofNat 40) ++ Bytes.ofNat 13 0x1432181eee050780565fb2e800

/-- What was asked about that certificate. -/
def sampleExpectation : Expectation where
  certificate := ⟨CertId.sha1Id, Bytes.ofNat 20 0x711d397671c9facf2242095925979a0698e46b11,
    Bytes.ofNat 20 0xc6bd963af30fbbba4513acd030944becf5e620a0, 7⟩
  issuerKey := [
    0x305c300d06092a864886f70d0101010500034b003048024100c83f22b1c33c55c0b324e00d602a2a,
    0x7cc18018451c323cae11fa3727a12870558f494289af69d53d282c5b79b08ed523b860d2eeea7038
  ].flatMap (Bytes.ofNat 40) ++ Bytes.ofNat 14 0xc7c82b5c3e982f86610203010001
  nonce := some [0x04, 0x04, 0x01, 0x02, 0x03, 0x04]

theorem sampleRewritten_is_read_alike :
    ∃ r r', decode? sampleResponse = some r ∧ decode? sampleRewritten = some r'
      ∧ r.nonce? = some [0x04, 0x04, 0x01, 0x02, 0x03, 0x04] ∧ r'.nonce? = r.nonce?
      ∧ StatusResponse.verified (some (kind, sampleRewritten)) sampleExpectation
        = .ok .revoked := by
  obtain ⟨r, h⟩ : ∃ r, decode? sampleResponse = some r :=
    Option.isSome_iff_exists.1 (by decide +kernel)
  have hn : (decode? sampleResponse).bind nonce? = some [0x04, 0x04, 0x01, 0x02, 0x03, 0x04] := by
    decide +kernel
  have hv : StatusResponse.verified (some (kind, sampleResponse)) sampleExpectation
      = .ok .revoked := by
    decide +kernel
  have hv' : StatusResponse.verified (some (kind, sampleRewritten)) sampleExpectation
      = .ok .revoked := by decide +kernel
  obtain ⟨r', h', -, hnonce, -, -⟩ := (signedPart_is_what_is_read h).2 hv hv' (by decide +kernel)
  rw [h] at hn
  exact ⟨r, r', h, h', hn, hnonce, hv'⟩

end BasicResponse

end SignerTrust
