import Mathlib.Data.List.TakeWhile
import SignerTrust.Proofs.CanonicalReader
import SignerTrust.Proofs.WrittenElement

/-!
# Readers of what is written

A reader reads some bytes as a value if it takes off just those, whatever follows (`Reads`).  That
is put together along the structure of what is written: steps, sequences, parts under a tag of
their own and lists.  A part that may be absent is absent before an element of another tag, and at
the end (`Needs.run_absent`, `Needs.run_absent_nil`).
-/

namespace SignerTrust.Canonical.Reader

open Der

variable {α β : Type}

/-- A reader takes off these bytes as a value, whatever follows them. -/
def Reads (r : Reader α) (bytes : Bytes) (x : α) : Prop :=
  ∀ rest, run r (bytes ++ rest) = (some x, rest)

theorem Reads.run_eq {r : Reader α} {bytes : Bytes} {x : α} (h : Reads r bytes x) :
    run r bytes = (some x, []) := by
  simpa using h []

theorem reads_pure (x : α) : Reads (pure x) [] x := fun _ => run_pure.2 ⟨rfl, rfl⟩

theorem Reads.bind {r : Reader α} {f : α → Reader β} {b₁ b₂ : Bytes} {x : α} {y : β}
    (h : Reads r b₁ x) (hf : Reads (f x) b₂ y) : Reads (r >>= f) (b₁ ++ b₂) y := by
  intro rest
  rw [List.append_assoc]
  exact run_bind.2 ⟨x, b₂ ++ rest, h _, hf rest⟩

/-- A step that takes off nothing more. -/
theorem Reads.map {r : Reader α} {f : α → Reader β} {bytes : Bytes} {x : α} {y : β}
    (h : Reads r bytes x) (hf : Reads (f x) [] y) : Reads (r >>= f) bytes y := by
  simpa using h.bind hf

/-- A step before those that read to the end. -/
theorem Reads.run_bind {r : Reader α} {f : α → Reader β} {b₁ b₂ : Bytes} {x : α} {y : β}
    (h : Reads r b₁ x) (hf : run (f x) b₂ = (some y, [])) :
    run (r >>= f) (b₁ ++ b₂) = (some y, []) :=
  Reader.run_bind.2 ⟨x, b₂, h b₂, hf⟩

/-- The last step that takes off something. -/
theorem Reads.run_bind_nil {r : Reader α} {f : α → Reader β} {bytes : Bytes} {x : α} {y : β}
    (h : Reads r bytes x) (hf : run (f x) [] = (some y, [])) :
    run (r >>= f) bytes = (some y, []) :=
  Reader.run_bind.2 ⟨x, [], h.run_eq, hf⟩

section Elements

variable {id : UInt8} {content : Bytes}

theorem reads_element {cls : TagClass} {tag : Nat} (hid : id.toNat % 32 ≠ 31)
    (h : Fits content) (hc : (written id content).tagClass = cls)
    (ht : (written id content).tag = tag) :
    Reads (element cls tag) (encode id content) (written id content) := fun rest =>
  run_element.2 ⟨Element.read?_encode hid h rest, hc, ht⟩

theorem reads_filling {r : Reader α} {x : α} (h : run r content = (some x, [])) :
    Reads (filling r content) [] x := fun _ => run_filling.2 ⟨h, rfl⟩

theorem reads_sequence {r : Reader α} {x : α} (h : Fits content)
    (hr : run r content = (some x, [])) : Reads (sequence r) (encode 0x30 content) x :=
  (reads_element (by decide) h rfl rfl).map (reads_filling hr)

theorem reads_set {r : Reader α} {x : α} (h : Fits content)
    (hr : run r content = (some x, [])) :
    Reads (constructed .universal Tag.set r) (encode 0x31 content) x :=
  (reads_element (by decide) h rfl rfl).map (reads_filling hr)

/-- A structure whose content is not read to its end is taken off all the same. -/
theorem run_constructed_of_not (hid : id.toNat % 32 ≠ 31) {r : Reader α} (h : Fits content)
    (hr : ∀ x, run r content ≠ (some x, [])) (rest : Bytes) :
    run (constructed (written id content).tagClass (written id content).tag r)
      (encode id content ++ rest) = (none, rest) := by
  rw [constructed, run_bind_eq, reads_element hid h rfl rfl rest]
  show run (if (written id content).constructed = true then filling r content
    else failure) rest = _
  split_ifs
  · exact run_filling_of_not hr rest
  · rfl

theorem reads_explicit {tag : Nat} (ht : tag < 31) {r : Reader α} {x : α}
    (h : Fits content) (hr : run r content = (some x, [])) :
    Reads (explicit tag r) (encode (UInt8.ofNat (0xa0 + tag)) content) x := by
  have hid : (UInt8.ofNat (0xa0 + tag)).toNat = 0xa0 + tag := by
    rw [UInt8.toNat_ofNat', Nat.mod_eq_of_lt (by omega)]
  have hclass : (0xa0 + tag) / 64 = 2 := by omega
  refine (reads_element (by omega) h ?_ ?_).map (reads_filling hr)
  · simp only [written, hid, hclass]
    rfl
  · simp only [written, hid]
    omega

theorem reads_primitive {tag : Nat} (ht : tag < 31) (h : Fits content) :
    Reads (primitive tag) (encode (UInt8.ofNat tag) content) content := by
  have hid : (UInt8.ofNat tag).toNat = tag := by
    rw [UInt8.toNat_ofNat', Nat.mod_eq_of_lt (by omega)]
  have hclass : tag / 64 = 0 := by omega
  have hcons : (written (UInt8.ofNat tag) content).constructed = false := by
    simp only [written, hid, decide_eq_false_iff_not]
    omega
  refine (reads_element (by omega) h ?_ ?_).map ?_
  · simp only [written, hid, hclass]
    rfl
  · simp only [written, hid]
    omega
  · rw [if_neg (by simp [hcons])]
    exact reads_pure content

theorem reads_octets (h : Fits content) :
    Reads octets (encode 0x04 content) content :=
  reads_primitive (by decide) h

theorem reads_integer {n : Int} (h : Fits (encodeTwosComplement n)) :
    Reads integer (encode 0x02 (encodeTwosComplement n)) n := by
  refine (reads_primitive (by decide) h).map ?_
  rw [twosComplement?_encode]
  exact reads_pure n

theorem reads_oid {arcs : Arcs} (h : Fits (Oid.ofArcs arcs).content)
    (ha : arcs? (Oid.ofArcs arcs).content = some arcs) : Reads oid (encodeOid arcs) arcs := by
  refine (reads_primitive (by decide) h).map ?_
  rw [ha]
  exact reads_pure arcs

end Elements

section Optional

theorem run_optionally (r : Reader α) (bytes : Bytes) :
    run (optionally r) bytes = (some (run r bytes).1, (run r bytes).2) := rfl

theorem Reads.optionally {r : Reader α} {bytes : Bytes} {x : α} (h : Reads r bytes x) :
    Reads (Reader.optionally r) bytes (some x) := by
  intro rest
  rw [run_optionally, h rest]

/-- Whether a reader takes off nothing where the next element has not a tag. -/
def Needs (cls : TagClass) (tag : Nat) (r : Reader α) : Prop :=
  ∀ bytes, (∀ e rest, Element.read? bytes = some (e, rest) → ¬ (e.tagClass = cls ∧ e.tag = tag)) →
    run r bytes = (none, bytes)

theorem needs_element (cls : TagClass) (tag : Nat) : Needs cls tag (element cls tag) := by
  intro bytes h
  rw [element, run_of]
  rcases hr : Element.read? bytes with _ | ⟨e, rest⟩
  · rfl
  · simp only [if_neg (h e rest hr)]

theorem Needs.bind {cls : TagClass} {tag : Nat} {r : Reader α} (h : Needs cls tag r)
    (f : α → Reader β) : Needs cls tag (r >>= f) := by
  intro bytes hn
  rw [run_bind_eq, h bytes hn]

theorem needs_explicit (tag : Nat) (r : Reader α) : Needs .contextSpecific tag (explicit tag r) :=
  (needs_element _ tag).bind _

theorem needs_primitive (tag : Nat) : Needs .universal tag (primitive tag) :=
  (needs_element _ tag).bind _

theorem needs_sequence (r : Reader α) : Needs .universal Tag.sequence (sequence r) :=
  (needs_element _ _).bind _

theorem Needs.run_nil {cls : TagClass} {tag : Nat} {r : Reader α} (h : Needs cls tag r) :
    run r [] = (none, []) := h [] fun _ _ h => by cases h

/-- An optional part is absent before an element of another tag. -/
theorem Needs.run_absent {cls : TagClass} {tag : Nat} {r : Reader α} (h : Needs cls tag r)
    {f : Option α → Reader β} {id : UInt8} {content rest : Bytes} (hid : id.toNat % 32 ≠ 31)
    (hn : ¬ (TagClass.ofBits (id.toNat / 64) = cls ∧ id.toNat % 32 = tag)) (hc : Fits content) :
    run (Reader.optionally r >>= f) (encode id content ++ rest)
      = run (f none) (encode id content ++ rest) := by
  have hr : run r (encode id content ++ rest) = (none, encode id content ++ rest) := by
    refine h _ fun e rest' he => ?_
    rw [Element.read?_encode hid hc, Option.some.injEq, Prod.mk.injEq] at he
    rwa [← he.1]
  rw [run_bind_eq, run_optionally, hr]

/-- An optional part is absent at the end. -/
theorem Needs.run_absent_nil {cls : TagClass} {tag : Nat} {r : Reader α} (h : Needs cls tag r)
    {f : Option α → Reader β} : run (Reader.optionally r >>= f) [] = run (f none) [] := by
  rw [run_bind_eq, run_optionally, h.run_nil]

end Optional

section Lists

variable {ι : Type} {r : Reader α} {write : ι → Bytes} {value : ι → α} {p : ι → Bool}

/-- Items that are written one after the other are read up to the first one that the reader does not
take; that one is taken off, and the others are left. -/
theorem repeated_go_takeWhile (hn : run r [] = (none, [])) : ∀ {xs : List ι} {fuel : Nat},
    (∀ x ∈ xs, p x = true → Reads r (write x) (value x)) →
    (∀ x ∈ xs, p x = false → ∀ rest, run r (write x ++ rest) = (none, rest)) → xs.length ≤ fuel →
    repeated.go r fuel (xs.flatMap write)
      = ((xs.takeWhile p).map value, (xs.dropWhile p).tail.flatMap write)
  | [], 0, _, _, _ => rfl
  | [], fuel + 1, _, _, _ => by
    rw [repeated.go, List.flatMap_nil, hn]
    rfl
  | x :: xs, fuel + 1, ht, hf, hl => by
    obtain ⟨htx, htxs⟩ := List.forall_mem_cons.1 ht
    obtain ⟨hfx, hfxs⟩ := List.forall_mem_cons.1 hf
    rw [repeated.go, List.flatMap_cons]
    rcases hp : p x
    · rw [hfx hp, List.takeWhile_cons_of_neg (by simp [hp]),
        List.dropWhile_cons_of_neg (by simp [hp])]
      rfl
    · rw [htx hp, List.takeWhile_cons_of_pos hp, List.dropWhile_cons_of_pos hp]
      simp only [repeated_go_takeWhile hn htxs hfxs (Nat.le_of_succ_le_succ hl), List.map_cons]

theorem length_le_flatMap (hw : ∀ x, write x ≠ []) : ∀ xs : List ι,
    xs.length ≤ (xs.flatMap write).length
  | [] => Nat.le_refl 0
  | x :: xs => by
    have ih := length_le_flatMap hw xs
    have hx := List.length_pos_iff.2 (hw x)
    rw [List.flatMap_cons, List.length_append, List.length_cons]
    omega

theorem run_repeated_takeWhile (hn : run r [] = (none, [])) (hw : ∀ x, write x ≠ []) {xs : List ι}
    (ht : ∀ x ∈ xs, p x = true → Reads r (write x) (value x))
    (hf : ∀ x ∈ xs, p x = false → ∀ rest, run r (write x ++ rest) = (none, rest)) :
    run (repeated r) (xs.flatMap write)
      = (some ((xs.takeWhile p).map value), (xs.dropWhile p).tail.flatMap write) := by
  rw [repeated, run_of, repeated_go_takeWhile hn ht hf (length_le_flatMap hw xs)]

/-- Items that are all taken are read as a list, to the end. -/
theorem run_repeated {write : α → Bytes} (hn : run r [] = (none, [])) (hw : ∀ x, write x ≠ [])
    {xs : List α} (hr : ∀ x ∈ xs, Reads r (write x) x) :
    run (repeated r) (xs.flatMap write) = (some xs, []) := by
  have h := @run_repeated_takeWhile α α r write id (fun _ => true) hn hw xs (fun x hx _ => hr x hx)
    (fun _ _ h => by cases h)
  have hall : xs.takeWhile (fun _ => true) = xs :=
    List.takeWhile_eq_self_iff.2 fun _ _ => rfl
  have hnone : xs.dropWhile (fun _ => true) = [] := List.dropWhile_eq_nil_iff.2 fun _ _ => rfl
  rwa [hall, hnone, List.map_id] at h

end Lists

end SignerTrust.Canonical.Reader
