import SignerTrust.Proofs.ObjectId
import SignerTrust.Proofs.Reads

/-!
# Names by the distinguished rules

A name is written in just one way: its sets are in order, and the identifiers of its attributes have
no zeros too many (`DistinguishedName`).  The strict reader does not take an identifier with a
number of `2 ^ 32` or more, nor a value that is not one element to it; it passes over the attribute
and ends the list there, without a failure if it was the last one (`DistinguishedName.run_name`).
What it has read it writes as the same bytes exactly if it has taken all attributes
(`DistinguishedName.encode_read_iff`).
-/

namespace SignerTrust

open Canonical Der

/-- An attribute as it is written: the content of its identifier, and its value. -/
structure WrittenAttribute where
  kind : Bytes
  value : Bytes

namespace WrittenAttribute

def encode (a : WrittenAttribute) : Bytes :=
  Der.encode 0x30 (Der.encode 0x06 a.kind ++ a.value)

/-- Whether the identifier and the value are such as the strict reader takes. -/
def isReadable (a : WrittenAttribute) : Bool :=
  ((Oid.arcs a.kind).all fun arc => decide (arc < 2 ^ 32))
    && (Element.read? a.value).any fun e => e.2.isEmpty

/-- The attribute that is read. -/
def read (a : WrittenAttribute) : Attribute :=
  ⟨(arcs? a.kind).getD [], a.value⟩

/-- Whether the attributes of a set are read to its end. -/
def isReadToEnd (set : List WrittenAttribute) : Bool :=
  (set.dropWhile isReadable).tail.isEmpty

/-- A set of attributes as it is written. -/
def encodeSet (set : List WrittenAttribute) : Bytes :=
  Der.encode 0x31 (set.flatMap encode)

/-- What is read of the attributes of a set. -/
def readSet (set : List WrittenAttribute) : List Bytes :=
  (set.takeWhile isReadable).map encode

end WrittenAttribute

/-- A name that keeps the distinguished rules. -/
structure DistinguishedName where
  sets : List (List WrittenAttribute)
  kind : ∀ set ∈ sets, ∀ a ∈ set, Der.Grammar.isObjectId a.kind = true
  ordered : ∀ set ∈ sets, (set.map WrittenAttribute.encode).Pairwise fun x y => bytesLe x y = true

namespace DistinguishedName

def encode (n : DistinguishedName) : Bytes :=
  Der.encode 0x30 (n.sets.flatMap WrittenAttribute.encodeSet)

/-- What is read of a name. -/
def read (n : DistinguishedName) : Name :=
  ⟨(n.sets.takeWhile WrittenAttribute.isReadToEnd).map WrittenAttribute.readSet⟩

/-- Whether all attributes of the name are such as the strict reader takes. -/
def IsReadable (n : DistinguishedName) : Prop :=
  ∀ set ∈ n.sets, ∀ a ∈ set, a.isReadable = true

end DistinguishedName

theorem Oid.arcs_go_ne_nil : ∀ {bytes : Bytes} (n : Nat) {pending : Bool},
    bytes ≠ [] ∨ pending = true → arcs.go n pending bytes ≠ []
  | [], n, pending, h => by simpa [arcs.go] using h
  | b :: rest, n, pending, _ => by
    rw [arcs.go]
    split_ifs
    · exact List.cons_ne_nil _ _
    · exact arcs_go_ne_nil _ (.inr rfl)

theorem Canonical.exists_arcs?_iff {content : Bytes} (h : Der.Grammar.isObjectId content = true) :
    (∃ arcs, arcs? content = some arcs) ↔ ∀ arc ∈ Oid.arcs content, arc < 2 ^ 32 := by
  simp only [Der.Grammar.isObjectId, Bool.and_eq_true, Option.any_eq_true, decide_eq_true_eq] at h
  obtain ⟨⟨last, hl, hlt⟩, -⟩ := h
  have hne : content ≠ [] := by
    rintro rfl
    cases hl
  have hsize : UInt32.size = 2 ^ 32 := rfl
  unfold arcs?
  rw [hl]
  simp only [if_neg (UInt8.not_le.2 hlt)]
  rcases ha : Oid.arcs content with _ | ⟨root, rest⟩
  · exact absurd ha (Oid.arcs_go_ne_nil 0 (.inl hne))
  simp only []
  split_ifs with hbig hroot
  · simp only [exists_false, false_iff, not_forall, Nat.not_lt, ← hsize]
    simpa using hbig
  · simpa [hsize] using hbig
  · simpa [hsize] using hbig

namespace WrittenAttribute

variable {a : WrittenAttribute}

theorem isReadable_iff (hk : Der.Grammar.isObjectId a.kind = true) :
    a.isReadable = true ↔
      (∃ arcs, arcs? a.kind = some arcs) ∧ ∃ e, Element.read? a.value = some (e, []) := by
  rw [exists_arcs?_iff hk, isReadable, Bool.and_eq_true, List.all_eq_true, Option.any_eq_true]
  simp

theorem encode_read (hk : Der.Grammar.isObjectId a.kind = true) (hr : a.isReadable = true) :
    a.read.encode = a.encode := by
  obtain ⟨⟨arcs, ha⟩, -⟩ := (isReadable_iff hk).1 hr
  rw [Attribute.encode, read, encodeOid, ha, Option.getD_some, content_ofArcs hk ha, encode]

theorem reads (hk : Der.Grammar.isObjectId a.kind = true) (hr : a.isReadable = true)
    (hf : Fits a.encode) : Reader.Reads nameAttribute a.encode a.read := by
  obtain ⟨⟨arcs, ha⟩, e, he⟩ := (isReadable_iff hk).1 hr
  have hvalue : a.value = e.encoding := by simpa using (Element.read?_slice he).1
  have hkind : Reader.Reads oid (Der.encode 0x06 a.kind) a.read.kind := by
    have hc := content_ofArcs hk ha
    have ho := @Reader.reads_oid arcs (by rw [hc]; exact hf.content.left.content) (by rwa [hc])
    rw [encodeOid, hc] at ho
    rwa [read, ha]
  refine Reader.reads_sequence hf.content (hkind.run_bind ?_)
  refine Reader.run_bind.2 ⟨e, [], Reader.run_anything.2 he, ?_⟩
  rw [← hvalue]
  rfl

theorem run_of_not_readable (hk : Der.Grammar.isObjectId a.kind = true)
    (hr : a.isReadable = false) (hf : Fits a.encode) (rest : Bytes) :
    Reader.run nameAttribute (a.encode ++ rest) = (none, rest) := by
  refine Reader.run_constructed_of_not (by decide) hf.content (fun x hx => ?_) rest
  obtain ⟨arcs, mid, ho, hx⟩ := Reader.run_bind.1 hx
  obtain ⟨content, mid', hp, ho⟩ := Reader.run_bind.1 ho
  have hprim := @Reader.reads_primitive a.kind Tag.objectId (by decide)
    hf.content.left.content a.value
  cases hprim.symm.trans hp
  split at ho
  · rename_i arcs' ha
    obtain ⟨rfl, rfl⟩ := Reader.run_pure.1 ho
    obtain ⟨e, mid, hv, hx⟩ := Reader.run_bind.1 hx
    obtain ⟨rfl, rfl⟩ := Reader.run_pure.1 hx
    rw [(isReadable_iff hk).2 ⟨⟨_, ha⟩, e, Reader.run_anything.1 hv⟩] at hr
    cases hr
  · cases ho

section Set

variable {set : List WrittenAttribute}

theorem run_repeated (hk : ∀ a ∈ set, Der.Grammar.isObjectId a.kind = true)
    (hf : Fits (set.flatMap encode)) :
    Reader.run (Reader.repeated nameAttribute) (set.flatMap encode)
      = (some ((set.takeWhile isReadable).map read),
        (set.dropWhile isReadable).tail.flatMap encode) :=
  Reader.run_repeated_takeWhile (Reader.needs_sequence _).run_nil (fun _ => encode_ne_nil _ _)
    (fun a ha hr => reads (hk a ha) hr (hf.of_mem_flatMap ha))
    (fun a ha hr => run_of_not_readable (hk a ha) hr (hf.of_mem_flatMap ha))

theorem flatMap_encode_eq_nil_iff : set.flatMap encode = [] ↔ set = [] := by
  constructor
  · intro h
    rcases set with _ | ⟨a, set⟩
    · rfl
    · exact absurd (List.append_eq_nil_iff.1 h).1 (encode_ne_nil _ _)
  · rintro rfl
    rfl

theorem flatMap_takeWhile_append : ((set.takeWhile isReadable).flatMap encode)
    ++ (set.dropWhile isReadable).flatMap encode = set.flatMap encode := by
  rw [← List.flatMap_append, List.takeWhile_append_dropWhile]

theorem flatMap_takeWhile_iff :
    (set.takeWhile isReadable).flatMap encode = set.flatMap encode
      ↔ ∀ a ∈ set, a.isReadable = true := by
  rw [← List.dropWhile_eq_nil_iff, ← flatMap_encode_eq_nil_iff]
  conv_lhs => rw [← @flatMap_takeWhile_append set]
  exact List.self_eq_append_right

theorem isReadToEnd_of_forall (h : ∀ a ∈ set, a.isReadable = true) : isReadToEnd set = true := by
  rw [isReadToEnd, List.dropWhile_eq_nil_iff.2 h]
  rfl

theorem mergeSort_read (hk : ∀ a ∈ set, Der.Grammar.isObjectId a.kind = true)
    (ho : (set.map encode).Pairwise fun x y => bytesLe x y = true) :
    (((set.takeWhile isReadable).map read).map Attribute.encode).mergeSort bytesLe
      = readSet set := by
  have hmap : ((set.takeWhile isReadable).map read).map Attribute.encode = readSet set := by
    rw [List.map_map]
    refine List.map_congr_left fun a ha => ?_
    exact encode_read (hk a ((List.takeWhile_prefix _).subset ha)) (List.mem_takeWhile_imp ha)
  rw [hmap]
  exact List.mergeSort_of_pairwise
    (ho.sublist ((List.takeWhile_prefix _).sublist.map encode))

end Set

end WrittenAttribute

namespace DistinguishedName

variable {n : DistinguishedName}

theorem reads_attributeSet {set : List WrittenAttribute} (hs : set ∈ n.sets)
    (hr : WrittenAttribute.isReadToEnd set = true)
    (hf : Fits (set.flatMap WrittenAttribute.encode)) :
    Reader.Reads attributeSet (WrittenAttribute.encodeSet set) (WrittenAttribute.readSet set) := by
  have hrun := WrittenAttribute.run_repeated (n.kind set hs) hf
  rw [List.isEmpty_iff.1 hr, List.flatMap_nil] at hrun
  refine (Reader.reads_set hf hrun).map ?_
  rw [WrittenAttribute.mergeSort_read (n.kind set hs) (n.ordered set hs)]
  exact Reader.reads_pure _

theorem run_attributeSet_of_not {set : List WrittenAttribute} (hs : set ∈ n.sets)
    (hr : WrittenAttribute.isReadToEnd set = false)
    (hf : Fits (set.flatMap WrittenAttribute.encode)) (rest : Bytes) :
    Reader.run attributeSet (WrittenAttribute.encodeSet set ++ rest) = (none, rest) := by
  have hrun := WrittenAttribute.run_repeated (n.kind set hs) hf
  have hset : Reader.run (Reader.constructed .universal Tag.set (Reader.repeated nameAttribute))
      (WrittenAttribute.encodeSet set ++ rest) = (none, rest) := by
    refine Reader.run_constructed_of_not (by decide) hf (fun x hx => ?_) rest
    rw [hrun, Prod.mk.injEq, WrittenAttribute.flatMap_encode_eq_nil_iff] at hx
    rw [WrittenAttribute.isReadToEnd, hx.2] at hr
    cases hr
  rw [attributeSet, Reader.run_bind_eq, hset]

theorem run_repeated (hf : Fits n.encode) :
    Reader.run (Reader.repeated attributeSet) (n.sets.flatMap WrittenAttribute.encodeSet)
      = (some n.read.sets, (n.sets.dropWhile WrittenAttribute.isReadToEnd).tail.flatMap
        WrittenAttribute.encodeSet) := by
  refine Reader.run_repeated_takeWhile ?_ (fun _ => encode_ne_nil _ _) ?_ ?_
  · exact (((Reader.needs_element _ _).bind _).bind _).run_nil
  · exact fun set hs hr => reads_attributeSet hs hr (hf.content.of_mem_flatMap hs).content
  · exact fun set hs hr => run_attributeSet_of_not hs hr (hf.content.of_mem_flatMap hs).content

theorem flatMap_readSet_iff : ∀ {sets : List (List WrittenAttribute)},
    Fits (sets.flatMap WrittenAttribute.encodeSet) →
    ((sets.takeWhile WrittenAttribute.isReadToEnd).flatMap
        (fun set => Der.encode 0x31 (WrittenAttribute.readSet set).flatten)
      = sets.flatMap WrittenAttribute.encodeSet
      ↔ ∀ set ∈ sets, ∀ a ∈ set, a.isReadable = true)
  | [], _ => by simp
  | set :: sets, hf => by
    have ih := @flatMap_readSet_iff sets hf.right
    rw [List.forall_mem_cons, List.flatMap_cons]
    rcases hr : WrittenAttribute.isReadToEnd set
    -- nothing is read of a name from the first set on that is not read to its end
    · rw [List.takeWhile_cons_of_neg (by simp [hr])]
      refine iff_of_false (fun h => ?_) (fun h => ?_)
      · exact encode_ne_nil _ _ (List.append_eq_nil_iff.1 h.symm).1
      · rw [WrittenAttribute.isReadToEnd_of_forall h.1] at hr
        cases hr
    · have hset : Fits (set.flatMap WrittenAttribute.encode) := hf.left.content
      have hread : Fits (WrittenAttribute.readSet set).flatten := by
        rw [← WrittenAttribute.flatMap_takeWhile_append] at hset
        exact hset.left
      rw [List.takeWhile_cons_of_pos hr, List.flatMap_cons, ← ih,
        ← WrittenAttribute.flatMap_takeWhile_iff]
      constructor
      · exact encode_append_inj (by decide) hread hset
      · rintro ⟨hs, hrest⟩
        rw [hrest, WrittenAttribute.encodeSet, ← hs]
        rfl

/-- What is read of a name is written as the name was exactly if all its attributes are taken. -/
theorem encode_read_iff (hf : Fits n.encode) : n.read.encode = n.encode ↔ n.IsReadable := by
  have hsets := flatMap_readSet_iff hf.content
  have hread : n.read.encode = Der.encode 0x30 ((n.sets.takeWhile
      WrittenAttribute.isReadToEnd).flatMap
        fun set => Der.encode 0x31 (WrittenAttribute.readSet set).flatten) := by
    rw [Name.encode, read, List.flatMap_map]
  rw [IsReadable, ← hsets, hread, encode]
  constructor
  · intro h
    have hc : Fits ((n.sets.takeWhile WrittenAttribute.isReadToEnd).flatMap
        fun set => Der.encode 0x31 (WrittenAttribute.readSet set).flatten) := by
      rw [encode, ← h] at hf
      exact hf.content
    exact (@encode_append_inj 0x30 (by decide) _ _ [] [] hc hf.content (by simpa using h)).1
  · exact congrArg _

/-- The strict reader reads a name up to the first attribute that it does not take, or it fails. -/
theorem run_name (hf : Fits n.encode) {rest rest' : Bytes} {x : Name}
    (h : Reader.run name (n.encode ++ rest) = (some x, rest')) : x = n.read ∧ rest' = rest := by
  obtain ⟨sets, mid, hs, h⟩ := Reader.run_bind.1 h
  obtain ⟨rfl, rfl⟩ := Reader.run_pure.1 h
  obtain ⟨e, he, -, -, -, hr⟩ := Reader.run_constructed.1 hs
  rw [encode, Element.read?_encode (by decide) hf.content] at he
  cases he
  obtain ⟨hsets, -⟩ := Prod.mk.inj ((run_repeated hf).symm.trans hr)
  cases hsets
  exact ⟨rfl, rfl⟩

end DistinguishedName

end SignerTrust
