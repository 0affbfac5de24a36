import SignerTrust.Proofs.DirectoryRead
import SignerTrust.Proofs.ListCheck

/-!
# The order of an entry's attributes

A client keeps the attributes of an entry in tables of no fixed order and reads the first one that
is asked for.  Only the part of a name in front of its options counts (`isAskedFor_iff`), so that
one name may ask for several attributes of an entry, and each of them comes first in some order
(`Offers.exists_perm`).  What a client may read is therefore told without any order
(`exists_order_value?_eq_iff`), and all orders give one value exactly if one value may be read.  For
an entry that came from a server this means that the attributes which are asked for begin alike
(`isUnambiguous_ofSent_iff`).

An entry with two lists shows that this is no small matter: a certificate that one of them names is
revoked in one order of the table and valid in another (`twoLists_read_by_order`).
-/

namespace SignerTrust

/-- Of the names only the parts in front of the options count, since names that are the same have
the same such part. -/
theorem isAskedFor_iff {wanted name : String} : IsAskedFor wanted name ↔
    SameName (name.toList.takeWhile (· ≠ ';')) (wanted.toList.takeWhile (· ≠ ';')) := by
  refine or_iff_right_of_imp fun h => ?_
  rw [SameName, ← SortedEntry.baseName_map_toLower, ← SortedEntry.baseName_map_toLower]
  exact congrArg SortedEntry.baseName h

/-- The order in which the attributes came, backwards. -/
def TableOrder.backwards : TableOrder :=
  ⟨List.reverse, List.reverse_perm⟩

/-- An order that goes through one table in a way of its own. -/
def TableOrder.through (order : TableOrder) (table table' : Attributes) (h : table'.Perm table) :
    TableOrder where
  arrange attributes := if attributes = table then table' else order.arrange attributes
  perm attributes := by
    split_ifs with ha
    · exact ha ▸ h
    · exact order.perm attributes

namespace SortedEntry

variable {order : TableOrder} {wanted : String} {table table' sent : Attributes} {e : SortedEntry}
  {v w : Option Bytes}

/-! ### What may come first -/

/-- Whether a table may give this for an attribute: it is what an attribute that is asked for begins
with, or none is asked for. -/
def Offers (wanted : String) (table : Attributes) (v : Option Bytes) : Prop :=
  (∃ row ∈ table, IsAskedFor wanted row.1 ∧ row.2.head? = v)
    ∨ (∀ row ∈ table, ¬ IsAskedFor wanted row.1) ∧ v = none

theorem offers_firstValue? (wanted : String) (table : Attributes) :
    Offers wanted table (firstValue? wanted table) := by
  rw [firstValue?_eq]
  cases hfound : table.find? fun row => isNamed wanted row.1 with
  | none =>
    refine .inr ⟨fun row hrow hasked => ?_, rfl⟩
    exact List.find?_eq_none.1 hfound row hrow (isNamed_iff.2 hasked)
  | some row =>
    have hasked := List.find?_some hfound
    exact .inl ⟨row, List.mem_of_find?_eq_some hfound, isNamed_iff.1 hasked, rfl⟩

theorem offers_congr (hp : table'.Perm table) : Offers wanted table' v ↔ Offers wanted table v := by
  simp only [Offers, hp.mem_iff]

/-- What a table may give it gives in some order: that in which the attribute comes first. -/
theorem Offers.exists_perm (h : Offers wanted table v) :
    ∃ table', table'.Perm table ∧ firstValue? wanted table' = v := by
  rcases h with ⟨row, hrow, hasked, rfl⟩ | ⟨hnone, rfl⟩
  · refine ⟨row :: table.erase row, (List.perm_cons_erase hrow).symm, ?_⟩
    have hfirst : (row :: table.erase row).find? (fun row => isNamed wanted row.1) = some row :=
      List.find?_cons_of_pos (isNamed_iff.2 hasked)
    rw [firstValue?_eq, hfirst]
    rfl
  · refine ⟨table, .refl _, ?_⟩
    rcases offers_firstValue? wanted table with ⟨row, hrow, hasked, -⟩ | ⟨-, h⟩
    · exact absurd hasked (hnone row hrow)
    · exact h

/-- Whether this may be read for an attribute of an entry. -/
def MayGive (e : SortedEntry) (wanted : String) (v : Option Bytes) : Prop :=
  ∃ b t, Offers wanted e.binary b ∧ Offers wanted e.textual t ∧ b.or t = v

theorem mayGive_value? (e : SortedEntry) (wanted : String) (order : TableOrder) :
    e.MayGive wanted (e.value? order wanted) :=
  ⟨_, _, (offers_congr (order.perm _)).1 (offers_firstValue? _ _),
    (offers_congr (order.perm _)).1 (offers_firstValue? _ _), rfl⟩

/-- A client reads in some order exactly what may be read. -/
theorem exists_order_value?_eq_iff :
    (∃ order, e.value? order wanted = v) ↔ e.MayGive wanted v := by
  constructor
  · rintro ⟨order, rfl⟩
    exact mayGive_value? e wanted order
  rintro ⟨b, t, hb, ht, rfl⟩
  obtain ⟨binary, hbinary, rfl⟩ := hb.exists_perm
  obtain ⟨textual, htextual, rfl⟩ := ht.exists_perm
  by_cases hsame : e.binary = e.textual
  · -- one table in two places goes by one order: that of the place that decides
    rcases hfirst : firstValue? wanted binary with _ | x
    · exact ⟨TableOrder.asSent.through _ _ htextual, by simp [value?, TableOrder.through, hsame]⟩
    · refine ⟨TableOrder.asSent.through _ _ hbinary, ?_⟩
      simp [value?, TableOrder.through, ← hsame, hfirst]
  · refine ⟨(TableOrder.asSent.through _ _ htextual).through _ _ hbinary, ?_⟩
    simp [value?, TableOrder.through, Ne.symm hsame]

/-! ### Entries that leave no choice -/

/-- Whether only one thing may be read for an attribute. -/
def IsUnambiguous (e : SortedEntry) (wanted : String) : Prop :=
  ∀ v w, e.MayGive wanted v → e.MayGive wanted w → v = w

theorem isUnambiguous_iff_order : e.IsUnambiguous wanted ↔
    ∀ order, e.value? order wanted = e.value? .asSent wanted := by
  constructor
  · intro h order
    exact h _ _ (mayGive_value? e wanted order) (mayGive_value? e wanted _)
  · intro h v w hv hw
    obtain ⟨order, rfl⟩ := exists_order_value?_eq_iff.2 hv
    obtain ⟨order', rfl⟩ := exists_order_value?_eq_iff.2 hw
    rw [h order, h order']

theorem isUnambiguous_iff_perm : e.IsUnambiguous wanted ↔
    ∀ textual binary, textual.Perm e.textual → binary.Perm e.binary →
      (⟨textual, binary⟩ : SortedEntry).value? .asSent wanted = e.value? .asSent wanted := by
  constructor
  · intro h textual binary ht hb
    refine h _ _ ⟨_, _, (offers_congr hb).1 ?_, (offers_congr ht).1 ?_, rfl⟩ (mayGive_value? e _ _)
      <;> exact offers_firstValue? _ _
  · have hread : (∀ textual binary, textual.Perm e.textual → binary.Perm e.binary →
        (⟨textual, binary⟩ : SortedEntry).value? .asSent wanted = e.value? .asSent wanted) →
          ∀ v, e.MayGive wanted v → e.value? .asSent wanted = v := by
      rintro h v ⟨b, t, hb, ht, rfl⟩
      obtain ⟨binary, hbinary, rfl⟩ := hb.exists_perm
      obtain ⟨textual, htextual, rfl⟩ := ht.exists_perm
      exact (h textual binary htextual hbinary).symm
    intro h v w hv hw
    rw [← hread h v hv, ← hread h w hw]

/-- Whether the attributes of a table that are asked for begin alike. -/
def BeginAlike (wanted : String) (table : Attributes) : Prop :=
  ∀ row ∈ table, ∀ row' ∈ table, IsAskedFor wanted row.1 → IsAskedFor wanted row'.1 →
    row.2.head? = row'.2.head?

theorem beginAlike_iff : BeginAlike wanted table ↔
    ∀ v w, Offers wanted table v → Offers wanted table w → v = w := by
  constructor
  · rintro h v w (⟨row, hrow, hasked, rfl⟩ | ⟨hnone, rfl⟩)
      (⟨row', hrow', hasked', rfl⟩ | ⟨hnone', rfl⟩)
    · exact h row hrow row' hrow' hasked hasked'
    · exact absurd hasked (hnone' row hrow)
    · exact absurd hasked' (hnone row' hrow')
    · rfl
  · intro h row hrow row' hrow' hasked hasked'
    exact h _ _ (.inl ⟨row, hrow, hasked, rfl⟩) (.inl ⟨row', hrow', hasked', rfl⟩)

theorem Offers.isSome (hvalues : ∀ row ∈ table, row.2 ≠ [])
    (hasked : ∃ row ∈ table, IsAskedFor wanted row.1) (h : Offers wanted table v) :
    ∃ x, v = some x := by
  rcases h with ⟨row, hrow, -, rfl⟩ | ⟨hnone, -⟩
  · exact ⟨_, List.head?_eq_some_head (hvalues row hrow)⟩
  · obtain ⟨row, hrow, h⟩ := hasked
    exact absurd h (hnone row hrow)

/-- Where binary attributes have values, they alone decide if one of them is asked for. -/
theorem isUnambiguous_iff_of_values (hvalues : ∀ row ∈ e.binary, row.2 ≠ []) :
    e.IsUnambiguous wanted ↔ BeginAlike wanted e.binary
      ∧ ((∃ row ∈ e.binary, IsAskedFor wanted row.1) ∨ BeginAlike wanted e.textual) := by
  rw [beginAlike_iff, beginAlike_iff]
  by_cases hasked : ∃ row ∈ e.binary, IsAskedFor wanted row.1
  · have hsome := fun v => @Offers.isSome wanted e.binary v hvalues hasked
    constructor
    · refine fun h => ⟨fun b b' hb hb' => ?_, .inl hasked⟩
      have ht := offers_firstValue? wanted e.textual
      have hor := h _ _ ⟨b, _, hb, ht, rfl⟩ ⟨b', _, hb', ht, rfl⟩
      obtain ⟨x, rfl⟩ := hsome b hb
      obtain ⟨y, rfl⟩ := hsome b' hb'
      exact hor
    · rintro ⟨h, -⟩ v w ⟨b, t, hb, -, rfl⟩ ⟨b', t', hb', -, rfl⟩
      obtain rfl := h b b' hb hb'
      obtain ⟨x, rfl⟩ := hsome b hb
      rfl
  · have hnone : ∀ b, Offers wanted e.binary b ↔ b = none := by
      intro b
      simp only [Offers, not_exists, not_and] at hasked ⊢
      exact ⟨fun h => (h.resolve_left fun ⟨row, hrow, h, _⟩ => hasked row hrow h).2,
        fun h => .inr ⟨hasked, h⟩⟩
    constructor
    · refine fun h => ⟨fun b b' hb hb' => by rw [(hnone b).1 hb, (hnone b').1 hb'], .inr ?_⟩
      exact fun t t' ht ht' => h t t' ⟨none, t, (hnone _).2 rfl, ht, rfl⟩
        ⟨none, t', (hnone _).2 rfl, ht', rfl⟩
    · rintro ⟨-, h⟩ v w ⟨b, t, hb, ht, rfl⟩ ⟨b', t', hb', ht', rfl⟩
      rw [(hnone b).1 hb, (hnone b').1 hb', h.resolve_left hasked t t' ht ht']

/-- A binary attribute has a value: one that is no text. -/
theorem values_of_mem_binary_ofSent : ∀ row ∈ (ofSent sent).binary, row.2 ≠ [] := by
  refine ofSent_induction (motive := fun e => ∀ row ∈ e.binary, row.2 ≠ [])
    (List.forall_mem_nil _) fun e row _ he => ?_
  rw [add]
  rcases row.2.partition Utf8.isText with ⟨texts, others⟩
  simp only
  split_ifs with hempty
  · exact he
  · have hne : others ++ texts ≠ [] :=
      List.append_ne_nil_of_left_ne_nil (by simpa using hempty) _
    exact forall_mem_append (p := fun row => row.2 ≠ []) hne
      (fun before _ => List.append_ne_nil_of_right_ne_nil before hne) he

/-- An entry that came from a server leaves no choice exactly if the binary attributes that are
asked for begin alike, and, if there are none, the textual ones do. -/
theorem isUnambiguous_ofSent_iff : (ofSent sent).IsUnambiguous wanted ↔
    BeginAlike wanted (ofSent sent).binary
      ∧ ((∃ row ∈ (ofSent sent).binary, IsAskedFor wanted row.1)
        ∨ BeginAlike wanted (ofSent sent).textual) :=
  isUnambiguous_iff_of_values values_of_mem_binary_ofSent

end SortedEntry

/-! ### Reading twice -/

namespace DirectoryServer

open SortedEntry (ofSent)

variable {s : DirectoryServer} {url attributeName wanted : String} {u : DirectoryUrl}
  {entry : SentEntry} {attributes : Attributes}

theorem firstValue?_eq_of_isUnambiguous (order order' : TableOrder) :
    ∀ {entries : List SentEntry}, (∀ entry ∈ entries, ∀ attributes,
      entry.attributes? = some attributes → (ofSent attributes).IsUnambiguous wanted) →
      firstValue? order wanted entries = firstValue? order' wanted entries
  | [], _ => rfl
  | entry :: entries, h => by
    obtain ⟨hentry, h⟩ := List.forall_mem_cons.1 h
    have ih := firstValue?_eq_of_isUnambiguous order order' h
    rw [firstValue?, firstValue?]
    rcases ha : entry.attributes? with _ | attributes
    · rfl
    have hvalue := SortedEntry.isUnambiguous_iff_order.1 (hentry attributes ha)
    simp only [Option.bind_eq_bind, Option.bind_some, hvalue order, hvalue order', ih]

/-- Where entries leave no choice, a server is read alike every time. -/
theorem read_eq_of_isUnambiguous (hu : DirectoryUrl.parse? url = some u)
    (h : ∀ entries, s.search = .answer (entries, 0) → ∀ entry ∈ entries, ∀ attributes,
      entry.attributes? = some attributes →
        (ofSent attributes).IsUnambiguous (u.attributeName.getD attributeName))
    (order order' : TableOrder) :
    s.read url attributeName order = s.read url attributeName order' := by
  have hfind : s.find order url (u.attributeName.getD attributeName)
      = s.find order' url (u.attributeName.getD attributeName) := by
    rw [find_eq, find_eq]
    split
    · rename_i entries hsearch
      rw [firstValue?_eq_of_isUnambiguous order order' (h entries hsearch)]
    all_goals rfl
  rw [read_eq hu, read_eq hu, hfind]

theorem firstValue?_singleton (order : TableOrder) (ha : entry.attributes? = some attributes) :
    firstValue? order wanted [entry] = some ((ofSent attributes).value? order wanted) := by
  rw [firstValue?, ha, Option.bind_eq_bind, Option.bind_some]
  rcases (ofSent attributes).value? order wanted with _ | v <;> rfl

/-- Of one entry, what may be read is read in some order. -/
theorem exists_read_eq_ok_iff (hu : DirectoryUrl.parse? url = some u) (hbound : s.IsBound)
    (hsearch : s.search = .answer ([entry], 0)) (ha : entry.attributes? = some attributes)
    (v : Bytes) : (∃ order, (s.read url attributeName order).1 = some (.ok v))
      ↔ v ≠ [] ∧ (ofSent attributes).MayGive (u.attributeName.getD attributeName) (some v) := by
  have hread : ∀ order, (s.read url attributeName order).1 = some (.ok v)
      ↔ v ≠ [] ∧ (ofSent attributes).value? order (u.attributeName.getD attributeName)
        = some v := by
    intro order
    rw [read_of_isBound hu hbound, find_eq, hsearch]
    simp only [firstValue?_singleton order ha, Option.map_some, Option.some.injEq,
      choose_eq_ok_iff, and_comm]
  simp only [hread, exists_and_left, SortedEntry.exists_order_value?_eq_iff]

/-- An attribute is asked for if its name is the one that is wanted up to options and case.  The
value that is read is the same in every order of the tables exactly if only one may be.  An entry
that came from a server leaves no choice exactly if the binary attributes that are asked for begin
alike, and, if there are none, the textual ones do.  A server is read alike every time if its
entries leave no choice; of one entry, what may be read is read in some order. -/
theorem same_in_every_order_iff (wanted : String) :
    (∀ name, IsAskedFor wanted name ↔
      SameName (name.toList.takeWhile (· ≠ ';')) (wanted.toList.takeWhile (· ≠ ';')))
    ∧ (∀ e : SortedEntry,
      (e.IsUnambiguous wanted ↔ ∀ order, e.value? order wanted = e.value? .asSent wanted)
      ∧ (e.IsUnambiguous wanted ↔
        ∀ textual binary, textual.Perm e.textual → binary.Perm e.binary →
          (⟨textual, binary⟩ : SortedEntry).value? .asSent wanted = e.value? .asSent wanted))
    ∧ (∀ sent, (ofSent sent).IsUnambiguous wanted ↔
      SortedEntry.BeginAlike wanted (ofSent sent).binary
        ∧ ((∃ row ∈ (ofSent sent).binary, IsAskedFor wanted row.1)
          ∨ SortedEntry.BeginAlike wanted (ofSent sent).textual))
    ∧ ∀ (s : DirectoryServer) (url attributeName : String) (u : DirectoryUrl),
      DirectoryUrl.parse? url = some u → u.attributeName.getD attributeName = wanted →
        ((∀ entries, s.search = .answer (entries, 0) → ∀ entry ∈ entries, ∀ attributes,
            entry.attributes? = some attributes → (ofSent attributes).IsUnambiguous wanted) →
          ∀ order order', s.read url attributeName order = s.read url attributeName order')
        ∧ ∀ entry attributes v, s.IsBound → s.search = .answer ([entry], 0) →
          entry.attributes? = some attributes →
          ((∃ order, (s.read url attributeName order).1 = some (.ok v))
            ↔ v ≠ [] ∧ (ofSent attributes).MayGive wanted (some v)) := by
  refine ⟨fun name => isAskedFor_iff,
    fun e => ⟨SortedEntry.isUnambiguous_iff_order, SortedEntry.isUnambiguous_iff_perm⟩,
    fun sent => SortedEntry.isUnambiguous_ofSent_iff, ?_⟩
  rintro s url attributeName u hu rfl
  exact ⟨read_eq_of_isUnambiguous hu, fun entry attributes v hbound hsearch ha =>
    exists_read_eq_ok_iff hu hbound hsearch ha v⟩

/-- The sample server has one attribute of the name, so that it is read alike in another order. -/
theorem same_in_every_order_iff_of_sample :
    sampleDirectory.read "ldap://ldap.bce-test.invalid/o%3DBCE?certificateRevocationList" "cn"
        .backwards
      = (some (.ok [0xff]), [.bind "" "",
          .search "o=BCE" .entry "objectClass" "certificateRevocationList"]) := by
  obtain ⟨-, -, hentry, hread⟩ := same_in_every_order_iff "certificateRevocationList"
  have hread := (hread sampleDirectory
    "ldap://ldap.bce-test.invalid/o%3DBCE?certificateRevocationList" "cn" ⟨.plain,
    "ldap.bce-test.invalid", 389, "o=BCE", some "certificateRevocationList"⟩
    (by decide +kernel) rfl).1
  rw [hread _ _ .asSent]
  · decide +kernel
  intro entries hsearch entry hmem attributes ha
  obtain ⟨rfl, -⟩ : _ ∧ _ := Prod.mk.inj (Reaction.answer.inj hsearch)
  obtain rfl := List.mem_singleton.1 hmem
  have hattributes : (entryOf [("cn", [[0x43]]), ("CertificateRevocationList;binary",
      [[0x30], [0xff]])]).attributes? = some [("cn", [[0x43]]),
        ("CertificateRevocationList;binary", [[0x30], [0xff]])] := by
    decide +kernel
  obtain rfl := Option.some.inj (ha.symm.trans hattributes)
  have hbinary : (ofSent [("cn", [[0x43]]), ("CertificateRevocationList;binary",
      [[0x30], [0xff]])]).binary = [("CertificateRevocationList;binary", [[0xff], [0x30]])] := by
    decide +kernel
  refine (hentry _).2 ?_
  rw [hbinary]
  refine ⟨fun row hrow row' hrow' _ _ => ?_, .inl ⟨_, List.mem_singleton_self _, ?_⟩⟩
  · rw [List.mem_singleton.1 hrow, List.mem_singleton.1 hrow']
  · exact SortedEntry.isNamed_iff.1 (by decide +kernel)

/-- Attributes with two lists under names that differ in their options: the one names a certificate,
and the other the certificate of the next number. -/
def twoLists : Attributes :=
  [("certificateRevocationList;binary", [RevocationList.listingEncoding]),
    ("certificateRevocationList;lang-es", [RevocationList.listingEncoding.set 109 0x02])]

/-- A server whose entry has these attributes. -/
def twoListsDirectory : DirectoryServer where
  isReachable := true
  bind := .answer 0
  search := .answer ([entryOf twoLists], 0)

/-- Servers among which only a directory answers, and is read in an order of tables. -/
def answering (s : DirectoryServer) (order : TableOrder) :
    (q : Question) → Unit → q.Answer × Unit
  | .fetch _ _, t => (.error (.io .refused ""), t)
  | .lookUp _ url attributeName, t =>
    ((s.read url attributeName order).1.getD (.error .failed), t)

/-- The check of the certificate that one of the lists names, against this server. -/
def twoListsCheck (order : TableOrder) : Option Outcome :=
  ((RevocationList.check {} ⟨.checked, .checked⟩ RevocationList.listedCertificate none
    (some ["ldap://crl1.invalid/cn=CRL1"])).run (twoListsDirectory.answering order) ()).1

/-- One entry of one server is read in two ways, though its attributes have names of their own: a
certificate is revoked by the one and valid by the other. -/
theorem twoLists_read_by_order :
    (twoLists.map Prod.fst).Nodup
      ∧ (ofSent twoLists).value? .asSent "certificateRevocationList;binary"
        = some RevocationList.listingEncoding
      ∧ (ofSent twoLists).value? .backwards "certificateRevocationList;binary"
        = some (RevocationList.listingEncoding.set 109 0x02)
      ∧ (¬ ∀ textual binary, textual.Perm (ofSent twoLists).textual →
          binary.Perm (ofSent twoLists).binary →
          (⟨textual, binary⟩ : SortedEntry).value? .asSent "certificateRevocationList;binary"
            = (ofSent twoLists).value? .asSent "certificateRevocationList;binary")
      ∧ twoListsCheck .asSent = some .revoked
      ∧ twoListsCheck .backwards = some .valid := by
  have hsent : (ofSent twoLists).value? .asSent "certificateRevocationList;binary"
      = some RevocationList.listingEncoding := by decide +kernel
  have hbackwards : (ofSent twoLists).value? .backwards "certificateRevocationList;binary"
      = some (RevocationList.listingEncoding.set 109 0x02) := by decide +kernel
  refine ⟨by decide +kernel, hsent, hbackwards, fun h => ?_, by decide +kernel, by decide +kernel⟩
  have hvalue := SortedEntry.isUnambiguous_iff_order.1 (SortedEntry.isUnambiguous_iff_perm.2 h)
    .backwards
  rw [hbackwards, hsent] at hvalue
  exact absurd (Option.some.inj hvalue) (by decide +kernel)

end DirectoryServer

end SignerTrust
