import SignerTrust.Proofs.CanonicalReader

/-!
# The fields of an encoded certificate

In what the issuer signs each field is one element, and the fields stand behind the version, which
may be left out.  So a field can be cut out by its place, without a look at the others (`field?`).
What the strict reader makes of serial number, subject and key is what it makes of these cuts
(`Canonical.Certificate.decode?_fields`).
-/

namespace SignerTrust

open Canonical Der

namespace Der.Element

/-- The element at a place of a row of elements. -/
def nth? : Nat → Bytes → Option Element
  | 0, bytes => (read? bytes).map (·.1)
  | n + 1, bytes => (read? bytes).bind fun e => nth? n e.2

/-- What stands behind the first element, if that is under a context tag; else all. -/
def afterContext (tag : Nat) (bytes : Bytes) : Bytes :=
  match read? bytes with
  | some (e, rest) => if e.tagClass = .contextSpecific ∧ e.tag = tag then rest else bytes
  | none => bytes

theorem nth?_succ {n : Nat} {bytes rest : Bytes} {e : Element} (h : read? bytes = some (e, rest)) :
    nth? (n + 1) bytes = nth? n rest := by
  rw [nth?, h, Option.bind_some]

theorem nth?_zero {bytes rest : Bytes} {e : Element} (h : read? bytes = some (e, rest)) :
    nth? 0 bytes = some e := by
  rw [nth?, h, Option.map_some]

theorem content_suffix {bytes rest : Bytes} {e : Element} (h : read? bytes = some (e, rest)) :
    e.content <:+ e.encoding := by
  obtain ⟨-, ⟨header, he⟩, -⟩ := read?_slice h
  exact ⟨header, he.symm⟩

theorem nth?_infix : ∀ {n : Nat} {bytes : Bytes} {e : Element}, nth? n bytes = some e →
    e.content <:+ e.encoding ∧ e.encoding <:+: bytes
  | 0, bytes, e, h => by
    obtain ⟨⟨e', rest⟩, hr, rfl⟩ := Option.map_eq_some_iff.1 h
    exact ⟨content_suffix hr, ⟨[], rest, (read?_slice hr).1.symm⟩⟩
  | n + 1, bytes, e, h => by
    obtain ⟨⟨e', rest⟩, hr, h⟩ := Option.bind_eq_some_iff.1 h
    obtain ⟨hc, hi⟩ := nth?_infix h
    exact ⟨hc, hi.trans ⟨e'.encoding, [], by rw [(read?_slice hr).1, List.append_nil]⟩⟩

theorem afterContext_suffix (tag : Nat) (bytes : Bytes) : afterContext tag bytes <:+ bytes := by
  unfold afterContext
  split
  · rename_i e rest hr
    split_ifs
    · exact ⟨e.encoding, (read?_slice hr).1.symm⟩
    · exact List.suffix_rfl
  · exact List.suffix_rfl

end Der.Element

namespace CertificateField

/-- The field at a place of what the issuer signs, counted behind the version.  Serial number,
algorithm, issuer, validity, subject and public key stand in this order. -/
def field? (place : Nat) (certificate : Bytes) : Option Element := do
  let outer ← Element.nth? 0 certificate
  let signed ← Element.nth? 0 outer.content
  Element.nth? place (Element.afterContext 0 signed.content)

/-- The field of the serial number. -/
def serial? (certificate : Bytes) : Option Element :=
  field? 0 certificate

/-- The field of the subject. -/
def subject? (certificate : Bytes) : Option Element :=
  field? 4 certificate

/-- The bit string of the public key, which stands behind its algorithm. -/
def keyBits? (certificate : Bytes) : Option Element := do
  let publicKey ← field? 5 certificate
  Element.nth? 1 publicKey.content

/-- A field is cut out of the certificate in one piece. -/
theorem field?_infix {place : Nat} {certificate : Bytes} {e : Element}
    (h : field? place certificate = some e) :
    e.content <:+ e.encoding ∧ e.encoding <:+: certificate := by
  obtain ⟨outer, ho, h⟩ := Option.bind_eq_some_iff.1 h
  obtain ⟨signed, hs, h⟩ := Option.bind_eq_some_iff.1 h
  obtain ⟨hoc, hoi⟩ := Element.nth?_infix ho
  obtain ⟨hsc, hsi⟩ := Element.nth?_infix hs
  obtain ⟨hc, hi⟩ := Element.nth?_infix h
  have hsigned := (Element.afterContext_suffix 0 signed.content).isInfix.trans hsc.isInfix
  exact ⟨hc, hi.trans (hsigned.trans (hsi.trans (hoc.isInfix.trans hoi)))⟩

end CertificateField

namespace Canonical

namespace Reader

variable {α β : Type}

/-- Whether a reader that succeeds has taken off one element. -/
def TakesOne (r : Reader α) : Prop :=
  ∀ ⦃bytes x rest⦄, run r bytes = (some x, rest) → ∃ e, Element.read? bytes = some (e, rest)

theorem takesOne_constructed (cls : TagClass) (tag : Nat) (r : Reader α) :
    TakesOne (constructed cls tag r) := by
  intro bytes x rest h
  obtain ⟨e, he, -⟩ := run_constructed.1 h
  exact ⟨e, he⟩

theorem snd_run_explicit (tag : Nat) (r : Reader α) (bytes : Bytes) :
    (run (explicit tag r) bytes).2 = Element.afterContext tag bytes := by
  rw [explicit, run_bind_eq, element, run_of, Element.afterContext]
  rcases Element.read? bytes with _ | ⟨e, rest⟩
  · rfl
  simp only []
  split_ifs
  · exact snd_run_filling _ _ _
  · rfl

theorem run_primitive {tag : Nat} {bytes content rest : Bytes}
    (h : run (primitive tag) bytes = (some content, rest)) :
    ∃ e, Element.read? bytes = some (e, rest) ∧ e.content = content := by
  obtain ⟨e, mid, he, h⟩ := run_bind.1 h
  split at h
  · cases h
  · obtain ⟨rfl, rfl⟩ := run_pure.1 h
    exact ⟨e, (run_element.1 he).1, rfl⟩

end Reader

theorem run_integer {bytes rest : Bytes} {n : Int} (h : Reader.run integer bytes = (some n, rest)) :
    ∃ e, Element.read? bytes = some (e, rest) ∧ twosComplement? e.content = some n := by
  obtain ⟨content, mid, hp, h⟩ := Reader.run_bind.1 h
  obtain ⟨e, he, rfl⟩ := Reader.run_primitive hp
  split at h
  · rename_i n' hn
    obtain ⟨rfl, rfl⟩ := Reader.run_pure.1 h
    exact ⟨e, he, hn⟩
  · cases h

theorem run_bits {bytes rest : Bytes} {b : Bits} (h : Reader.run bits bytes = (some b, rest)) :
    ∃ e, Element.read? bytes = some (e, rest) ∧ bits? e.content = some b := by
  obtain ⟨content, mid, hp, h⟩ := Reader.run_bind.1 h
  obtain ⟨e, he, rfl⟩ := Reader.run_primitive hp
  split at h
  · rename_i b' hb
    obtain ⟨rfl, rfl⟩ := Reader.run_pure.1 h
    exact ⟨e, he, hb⟩
  · cases h

/-- The bytes of a name that was read are enough to read it. -/
theorem run_name_slice {bytes rest : Bytes} {n : Name}
    (h : Reader.run name bytes = (some n, rest)) :
    ∃ e, Element.read? bytes = some (e, rest) ∧ Reader.run name e.encoding = (some n, []) := by
  obtain ⟨sets, mid, hs, h⟩ := Reader.run_bind.1 h
  obtain ⟨rfl, rfl⟩ := Reader.run_pure.1 h
  obtain ⟨e, he, -, hs⟩ := Reader.run_sequence_slice hs
  exact ⟨e, he, Reader.run_bind.2 ⟨sets, [], hs, rfl⟩⟩

theorem run_publicKeyInfo {bytes rest : Bytes} {k : PublicKeyInfo}
    (h : Reader.run publicKeyInfo bytes = (some k, rest)) :
    ∃ e key, Element.read? bytes = some (e, rest) ∧ Element.nth? 1 e.content = some key
      ∧ bits? key.content = some k.key := by
  obtain ⟨e, he, -, -, -, h⟩ := Reader.run_constructed.1 h
  obtain ⟨algorithm, mid, ha, h⟩ := Reader.run_bind.1 h
  obtain ⟨b, mid', hb, h⟩ := Reader.run_bind.1 h
  obtain ⟨rfl, -⟩ := Reader.run_pure.1 h
  obtain ⟨first, hfirst⟩ := Reader.takesOne_constructed _ _ _ ha
  obtain ⟨key, hkey, hbits⟩ := run_bits hb
  exact ⟨e, key, he, by rw [Element.nth?_succ hfirst, Element.nth?_zero hkey], hbits⟩

open CertificateField in
/-- The serial number, subject and key that the strict reader finds in a certificate are those of
the fields at their places. -/
theorem Certificate.decode?_fields {bytes : Bytes} {c : Certificate}
    (h : Certificate.decode? bytes = some c) :
    (∃ e, serial? bytes = some e ∧ twosComplement? e.content = some c.serial)
    ∧ (∃ e, subject? bytes = some e ∧ Reader.run name e.encoding = (some c.subject, []))
    ∧ ∃ e, keyBits? bytes = some e ∧ bits? e.content = some c.publicKey.key := by
  obtain ⟨rest, h⟩ := Reader.decode?_eq_some.1 h
  obtain ⟨outer, ho, -, -, -, h⟩ := Reader.run_constructed.1 h
  obtain ⟨f, r₁, hs, h⟩ := Reader.run_bind.1 h
  obtain ⟨algorithm, r₂, -, h⟩ := Reader.run_bind.1 h
  obtain ⟨signature, r₃, -, h⟩ := Reader.run_bind.1 h
  obtain ⟨rfl, -⟩ := Reader.run_pure.1 h
  obtain ⟨signed, hi, -, -, -, hs⟩ := Reader.run_constructed.1 hs
  obtain ⟨version, r₄, hv, hs⟩ := Reader.run_bind.1 hs
  obtain ⟨number, r₅, hn, hs⟩ := Reader.run_bind.1 hs
  obtain ⟨innerAlgorithm, r₆, ha, hs⟩ := Reader.run_bind.1 hs
  obtain ⟨issuer, r₇, hissuer, hs⟩ := Reader.run_bind.1 hs
  obtain ⟨⟨notBefore, notAfter⟩, r₈, hvalidity, hs⟩ := Reader.run_bind.1 hs
  obtain ⟨name, r₉, hname, hs⟩ := Reader.run_bind.1 hs
  obtain ⟨info, r₁₀, hinfo, hs⟩ := Reader.run_bind.1 hs
  obtain ⟨issuerId, r₁₁, -, hs⟩ := Reader.run_bind.1 hs
  obtain ⟨subjectId, r₁₂, -, hs⟩ := Reader.run_bind.1 hs
  obtain ⟨extensions, r₁₃, -, hs⟩ := Reader.run_bind.1 hs
  obtain ⟨rfl, -⟩ := Reader.run_pure.1 hs
  have hfield : ∀ place, field? place bytes = Element.nth? place r₄ := by
    intro place
    have hr : r₄ = Element.afterContext 0 signed.content := by
      rw [← Reader.snd_run_explicit 0 versionNumber]
      exact (Prod.mk.inj hv).2.symm
    rw [field?, Element.nth?_zero ho, hr]
    simp only [Option.bind_eq_bind, Option.bind_some, Element.nth?_zero hi]
  obtain ⟨e₀, h₀, hserial⟩ := run_integer hn
  obtain ⟨e₁, h₁⟩ := Reader.takesOne_constructed _ _ _ ha
  obtain ⟨e₂, h₂, -⟩ := run_name_slice hissuer
  obtain ⟨e₃, h₃⟩ := Reader.takesOne_constructed _ _ _ hvalidity
  obtain ⟨e₄, h₄, hsubject⟩ := run_name_slice hname
  obtain ⟨e₅, key, h₅, hkey, hbits⟩ := run_publicKeyInfo hinfo
  have hbefore : ∀ n, Element.nth? (n + 4) r₄ = Element.nth? n r₈ := by
    intro n
    rw [Element.nth?_succ h₀, Element.nth?_succ h₁, Element.nth?_succ h₂, Element.nth?_succ h₃]
  refine ⟨⟨e₀, ?_, hserial⟩, ⟨e₄, ?_, hsubject⟩, key, ?_, hbits⟩
  · rw [serial?, hfield, Element.nth?_zero h₀]
  · rw [subject?, hfield, hbefore 0, Element.nth?_zero h₄]
  · rw [keyBits?, hfield, hbefore 1, Element.nth?_succ h₄, Element.nth?_zero h₅]
    exact hkey

end Canonical

end SignerTrust
