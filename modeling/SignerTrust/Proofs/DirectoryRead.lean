import Mathlib.Tactic.Common
import SignerTrust.Network.Directory
import SignerTrust.Proofs.ListResults
import SignerTrust.Proofs.PercentEncoding

/-!
# Values read from a directory

A client sorts the values of an entry before it chooses one, but it makes none up.  Sorting puts the
values of an attribute in another order and joins lists of the same attribute, so that whatever
stands such changes and holds of the attributes as they are sent holds of the sorted ones
(`forall_mem_rows_ofSent`).  Hence the value that is chosen was sent under a name that is asked for
(`exists_sent_of_value?_eq_some`), and there is a value to choose if such an attribute is sent, and
none without values (`isSome_value?_ofSent`), in whatever order the client goes through its tables.
A read sends no request after one that is not granted, runs into a time limit only if the server
lets it (`read_conversation`), and gives a value if the server sends some (`exists_read_eq_ok`).  It
breaks off only at an entry whose names are no texts.
-/

namespace SignerTrust

/-! ### Names of attributes -/

/-- Whether names are the same but for the case of their letters. -/
def SameName (a b : List Char) : Prop :=
  a.map Char.toLower = b.map Char.toLower

/-- Whether an attribute is asked for by a name: it has that name, or the same one without
options. -/
def IsAskedFor (wanted name : String) : Prop :=
  SameName name.toList wanted.toList
    ∨ SameName (name.toList.takeWhile (· ≠ ';')) (wanted.toList.takeWhile (· ≠ ';'))

namespace SortedEntry

theorem toLower_eq_semicolon_iff {c : Char} : c.toLower = ';' ↔ c = ';' := by
  refine ⟨fun h => DirectoryUrl.eq_of_toLower_eq h (by decide), ?_⟩
  rintro rfl
  rfl

theorem baseName_map_toLower (name : List Char) :
    baseName (name.map Char.toLower) = (name.takeWhile (· ≠ ';')).map Char.toLower := by
  rw [baseName, List.takeWhile_map]
  congr 2
  funext c
  simp [toLower_eq_semicolon_iff]

theorem isNamed_iff {wanted name : String} :
    isNamed wanted name = true ↔ IsAskedFor wanted name := by
  rw [isNamed, Bool.or_eq_true, decide_eq_true_eq, decide_eq_true_eq, folded, folded,
    baseName_map_toLower, baseName_map_toLower]
  rfl

/-! ### Sorting -/

/-- The attributes of both tables. -/
def rows (e : SortedEntry) : Attributes :=
  e.binary ++ e.textual

section Rows

variable {p : String × List Bytes → Prop} {name : String} {values : List Bytes}
  {attributes sent : Attributes} {e : SortedEntry}

theorem forall_mem_replace (hnew : p (name, values)) : ∀ {attributes : Attributes},
    (∀ row ∈ attributes, p row) → ∀ row ∈ replace name values attributes, p row
  | [], _ => List.forall_mem_singleton.2 hnew
  | (m, ws) :: attributes, h => by
    obtain ⟨hrow, h⟩ := List.forall_mem_cons.1 h
    rw [replace]
    split_ifs with hm
    · exact List.forall_mem_cons.2 ⟨hm ▸ hnew, h⟩
    · exact List.forall_mem_cons.2 ⟨hrow, forall_mem_replace hnew h⟩

theorem forall_mem_append (hnew : p (name, values))
    (hjoin : ∀ before, p (name, before) → p (name, before ++ values)) :
    ∀ {attributes : Attributes}, (∀ row ∈ attributes, p row) →
      ∀ row ∈ append name values attributes, p row
  | [], _ => List.forall_mem_singleton.2 hnew
  | (m, ws) :: attributes, h => by
    obtain ⟨hrow, h⟩ := List.forall_mem_cons.1 h
    rw [append]
    split_ifs with hm
    · subst hm
      exact List.forall_mem_cons.2 ⟨hjoin ws hrow, h⟩
    · exact List.forall_mem_cons.2 ⟨hrow, forall_mem_append hnew hjoin h⟩

theorem perm_partition (values : List Bytes) :
    ((values.partition Utf8.isText).2 ++ (values.partition Utf8.isText).1).Perm values := by
  rw [List.partition_eq_filter_filter]
  exact List.perm_append_comm.trans (List.filter_append_perm _ _)

/-- What an attribute adds to the tables is its values, in another order or joined to others. -/
theorem forall_mem_rows_add (hperm : ∀ {n a b}, List.Perm a b → p (n, a) → p (n, b))
    (hjoin : ∀ {n a b}, p (n, a) → p (n, b) → p (n, a ++ b)) (hnew : p (name, values))
    (h : ∀ row ∈ e.rows, p row) : ∀ row ∈ (e.add name values).rows, p row := by
  obtain ⟨hbinary, htextual⟩ := List.forall_mem_append.1 h
  have hsorted := hperm (perm_partition values).symm hnew
  rw [add]
  rcases hpartition : values.partition Utf8.isText with ⟨texts, others⟩
  rw [hpartition] at hsorted
  simp only
  split_ifs with hempty
  · exact List.forall_mem_append.2 ⟨hbinary, forall_mem_replace hnew htextual⟩
  · exact List.forall_mem_append.2
      ⟨forall_mem_append hsorted (fun _ hbefore => hjoin hbefore hsorted) hbinary, htextual⟩

/-- What holds of no attributes, and is kept as each attribute of an entry is added, holds of the
sorted ones. -/
theorem ofSent_induction {motive : SortedEntry → Prop} (hnil : motive ⟨[], []⟩)
    (hadd : ∀ e, ∀ row ∈ sent, motive e → motive (e.add row.1 row.2)) : motive (ofSent sent) := by
  suffices hrun : ∀ e, motive e → motive (sent.foldl (fun e row => e.add row.1 row.2) e) from
    hrun _ hnil
  clear hnil
  induction sent with
  | nil => exact fun _ he => he
  | cons row sent ih =>
    obtain ⟨hrow, hadd⟩ := List.forall_mem_cons.1 (fun row hrow e => hadd e row hrow)
    exact fun e he => ih (fun e row hrow => hadd row hrow e) _ (hrow e he)

/-- What holds of the attributes of an entry holds of the sorted ones. -/
theorem forall_mem_rows_ofSent (hperm : ∀ {n a b}, List.Perm a b → p (n, a) → p (n, b))
    (hjoin : ∀ {n a b}, p (n, a) → p (n, b) → p (n, a ++ b)) (h : ∀ row ∈ sent, p row) :
    ∀ row ∈ (ofSent sent).rows, p row :=
  ofSent_induction (motive := fun e => ∀ row ∈ e.rows, p row) (List.forall_mem_nil _)
    fun _ row hrow he => forall_mem_rows_add hperm hjoin (h row hrow) he

/-! ### Names that are kept -/

theorem mem_names_replace_iff {n : String} : ∀ {attributes : Attributes},
    n ∈ (replace name values attributes).map Prod.fst ↔ n = name ∨ n ∈ attributes.map Prod.fst
  | [] => by simp [replace]
  | (m, ws) :: attributes => by
    rw [replace]
    split_ifs with hm
    · simp [hm]
    · simp only [List.map_cons, List.mem_cons, mem_names_replace_iff]
      tauto

theorem mem_names_append_iff {n : String} : ∀ {attributes : Attributes},
    n ∈ (append name values attributes).map Prod.fst ↔ n = name ∨ n ∈ attributes.map Prod.fst
  | [] => by simp [append]
  | (m, ws) :: attributes => by
    rw [append]
    split_ifs with hm
    · simp [hm]
    · simp only [List.map_cons, List.mem_cons, mem_names_append_iff]
      tauto

theorem mem_names_add_iff {n : String} :
    n ∈ (e.add name values).rows.map Prod.fst ↔ n = name ∨ n ∈ e.rows.map Prod.fst := by
  rw [add]
  rcases values.partition Utf8.isText with ⟨texts, others⟩
  simp only
  split_ifs <;> simp only [rows, List.map_append, List.mem_append, mem_names_replace_iff,
    mem_names_append_iff] <;> tauto

/-- The tables have the names of the attributes that were sent. -/
theorem mem_names_ofSent_iff {n : String} :
    n ∈ (ofSent sent).rows.map Prod.fst ↔ n ∈ sent.map Prod.fst := by
  suffices hrun : ∀ e : SortedEntry,
      n ∈ (sent.foldl (fun e row => e.add row.1 row.2) e).rows.map Prod.fst
        ↔ n ∈ sent.map Prod.fst ∨ n ∈ e.rows.map Prod.fst from
    (hrun ⟨[], []⟩).trans (or_iff_left List.not_mem_nil)
  induction sent with
  | nil => simp
  | cons row sent ih =>
    intro e
    rw [List.foldl_cons, ih, mem_names_add_iff, List.map_cons, List.mem_cons]
    tauto

end Rows

/-! ### The value that is chosen -/

section Value

variable {order : TableOrder} {wanted : String} {attributes sent : Attributes} {e : SortedEntry}
  {v : Bytes}

theorem firstValue?_eq (wanted : String) (attributes : Attributes) : firstValue? wanted attributes
    = (attributes.find? fun row => isNamed wanted row.1).bind fun row => row.2.head? := rfl

theorem exists_mem_of_firstValue?_eq_some (h : firstValue? wanted attributes = some v) :
    ∃ row ∈ attributes, IsAskedFor wanted row.1 ∧ v ∈ row.2 := by
  rw [firstValue?_eq] at h
  obtain ⟨row, hrow, hv⟩ := Option.bind_eq_some_iff.1 h
  have hasked := List.find?_some hrow
  exact ⟨row, List.mem_of_find?_eq_some hrow, isNamed_iff.1 hasked, List.mem_of_mem_head? hv⟩

/-- The value is one of an attribute that is asked for. -/
theorem exists_mem_of_value?_eq_some (h : e.value? order wanted = some v) :
    ∃ row ∈ e.rows, IsAskedFor wanted row.1 ∧ v ∈ row.2 := by
  rw [value?, Option.or_eq_some_iff] at h
  rcases h with h | ⟨-, h⟩ <;> obtain ⟨row, hrow, hv⟩ := exists_mem_of_firstValue?_eq_some h
  · exact ⟨row, List.mem_append_left _ ((order.perm _).mem_iff.1 hrow), hv⟩
  · exact ⟨row, List.mem_append_right _ ((order.perm _).mem_iff.1 hrow), hv⟩

/-- The value was sent under a name that is asked for. -/
theorem exists_sent_of_value?_eq_some (h : (ofSent sent).value? order wanted = some v) :
    ∃ name values, (name, values) ∈ sent ∧ IsAskedFor wanted name ∧ v ∈ values := by
  have hsent : ∀ row ∈ (ofSent sent).rows, ∀ v ∈ row.2,
      ∃ values, (row.1, values) ∈ sent ∧ v ∈ values :=
    forall_mem_rows_ofSent (fun hperm h v hv => h v (hperm.mem_iff.2 hv))
      (fun ha hb v hv => (List.mem_append.1 hv).elim (ha v) (hb v))
      fun row hrow v hv => ⟨row.2, hrow, hv⟩
  obtain ⟨row, hrow, hasked, hv⟩ := exists_mem_of_value?_eq_some h
  obtain ⟨values, hvalues, hmem⟩ := hsent row hrow v hv
  exact ⟨row.1, values, hvalues, hasked, hmem⟩

theorem isSome_firstValue? (hall : ∀ row ∈ attributes, IsAskedFor wanted row.1 → row.2 ≠ [])
    (hex : ∃ row ∈ attributes, IsAskedFor wanted row.1) :
    (firstValue? wanted attributes).isSome = true := by
  rw [firstValue?_eq]
  cases hfound : attributes.find? fun row => isNamed wanted row.1 with
  | none =>
    obtain ⟨row, hrow, hasked⟩ := hex
    exact absurd (isNamed_iff.2 hasked) (List.find?_eq_none.1 hfound row hrow)
  | some row =>
    have hasked := List.find?_some hfound
    simpa using hall row (List.mem_of_find?_eq_some hfound) (isNamed_iff.1 hasked)

/-- There is a value if the attribute is sent, and never without values. -/
theorem isSome_value?_ofSent (order : TableOrder)
    (hall : ∀ name values, (name, values) ∈ sent → IsAskedFor wanted name → values ≠ [])
    (hex : ∃ name values, (name, values) ∈ sent ∧ IsAskedFor wanted name) :
    ((ofSent sent).value? order wanted).isSome = true := by
  have hne : ∀ row ∈ (ofSent sent).rows, IsAskedFor wanted row.1 → row.2 ≠ [] :=
    forall_mem_rows_ofSent (fun hperm h hasked hnil => h hasked (List.perm_nil.1 (hnil ▸ hperm)))
      (fun ha _ hasked => List.append_ne_nil_of_left_ne_nil (ha hasked) _)
      fun row hrow => hall row.1 row.2 hrow
  have harranged : ∀ {table : Attributes}, (∃ row ∈ table, IsAskedFor wanted row.1) →
      (∀ row ∈ table, row ∈ (ofSent sent).rows) →
      (firstValue? wanted (order.arrange table)).isSome = true := by
    intro table hrow hmem
    have hperm := order.perm table
    exact isSome_firstValue? (fun row hrow => hne row (hmem row (hperm.mem_iff.1 hrow)))
      (hrow.imp fun row h => ⟨hperm.mem_iff.2 h.1, h.2⟩)
  obtain ⟨name, values, hsent, hasked⟩ := hex
  obtain ⟨row, hrow, rfl⟩ : ∃ row ∈ (ofSent sent).rows, row.1 = name :=
    List.mem_map.1 (mem_names_ofSent_iff.2 (List.mem_map_of_mem (f := Prod.fst) hsent))
  rw [value?, Option.isSome_or, Bool.or_eq_true]
  rcases List.mem_append.1 hrow with hrow | hrow
  · exact .inl (harranged ⟨row, hrow, hasked⟩ fun _ => List.mem_append_left _)
  · exact .inr (harranged ⟨row, hrow, hasked⟩ fun _ => List.mem_append_right _)

end Value

end SortedEntry

/-! ### Entries -/

/-- An entry that is read has the attributes that were sent, under the texts of their names. -/
theorem SentEntry.exists_sent {entry : SentEntry} {attributes : Attributes}
    (h : entry.attributes? = some attributes) {name : String} {values : List Bytes}
    (hm : (name, values) ∈ attributes) :
    ∃ bytes, (bytes, values) ∈ entry.attributes ∧ Utf8.decode? bytes = some name := by
  obtain ⟨-, -, h⟩ := Option.bind_eq_some_iff.1 h
  obtain ⟨⟨bytes, sent⟩, hsent, hrow⟩ := exists_of_mapM_eq_some h _ hm
  obtain ⟨text, ht, heq⟩ := Option.map_eq_some_iff.1 hrow
  cases heq
  exact ⟨bytes, hsent, ht⟩

/-! ### Conversations -/

namespace DirectoryServer

variable {s : DirectoryServer} {order : TableOrder} {url wanted attributeName : String}
  {u : DirectoryUrl} {entries : List SentEntry} {v : Bytes}

/-- Whether a client gets as far as to search. -/
def IsBound (s : DirectoryServer) : Prop :=
  s.isReachable = true ∧ s.isPrompt = true ∧ s.bind = .answer 0

/-- Whether a server sends a value under a name that is asked for. -/
def Sends (s : DirectoryServer) (wanted : String) (v : Bytes) : Prop :=
  ∃ entries, s.search = .answer (entries, 0) ∧ ∃ entry ∈ entries, ∃ bytes values name,
    (bytes, values) ∈ entry.attributes ∧ Utf8.decode? bytes = some name ∧ IsAskedFor wanted name
      ∧ v ∈ values

/-- Whether a server lets a time limit run out: that for connecting, or that for the answer to a
request which a client comes to send. -/
def LetsTimeRunOut (s : DirectoryServer) : Prop :=
  s.isReachable = true ∧ (s.isPrompt = false ∨ s.bind = .silence
    ∨ s.bind = .answer 0 ∧ s.search = .silence)

/-- Whether a server sends an entry whose names are not all texts. -/
def SendsUnreadable (s : DirectoryServer) : Prop :=
  ∃ entries, s.search = .answer (entries, 0) ∧ ∃ entry ∈ entries, entry.attributes? = none

theorem exists_mem_of_firstValue? : ∀ {entries : List SentEntry},
    firstValue? order wanted entries = some (some v) → ∃ entry ∈ entries, ∃ attributes,
      entry.attributes? = some attributes
        ∧ (SortedEntry.ofSent attributes).value? order wanted = some v
  | entry :: entries, h => by
    obtain ⟨attributes, ha, h⟩ := Option.bind_eq_some_iff.1 h
    split at h
    · rename_i value hvalue
      cases h
      exact ⟨entry, List.mem_cons_self, attributes, ha, hvalue⟩
    · obtain ⟨entry', he, h⟩ := exists_mem_of_firstValue? h
      exact ⟨entry', List.mem_cons_of_mem entry he, h⟩

theorem exists_mem_of_firstValue?_eq_none : ∀ {entries : List SentEntry},
    firstValue? order wanted entries = none → ∃ entry ∈ entries, entry.attributes? = none
  | entry :: entries, h => by
    rcases ha : entry.attributes? with _ | attributes
    · exact ⟨entry, List.mem_cons_self, ha⟩
    rw [firstValue?, ha, Option.bind_eq_bind, Option.bind_some] at h
    split at h
    · cases h
    · obtain ⟨entry', he, h⟩ := exists_mem_of_firstValue?_eq_none h
      exact ⟨entry', List.mem_cons_of_mem entry he, h⟩

theorem choose_eq_ok_iff {found : Option Bytes} :
    choose url wanted found = .ok v ↔ found = some v ∧ v ≠ [] := by
  rcases found with _ | _ | ⟨b, bs⟩
  · simp [choose]
  · simp [choose, eq_comm]
  · simp only [choose, Except.ok.injEq, Option.some.injEq, iff_self_and]
    rintro rfl
    exact List.cons_ne_nil b bs

theorem choose_isTimeout {found : Option Bytes} {e : DirectoryError}
    (h : choose url wanted found = .error e) : e.isTimeout = false := by
  unfold choose at h
  split at h
  · cases h
  · obtain rfl := Except.error.inj h
    rfl

theorem find_eq : s.find order url wanted = match s.search with
    | .answer (entries, 0) => (firstValue? order wanted entries).map (choose url wanted)
    | .answer (_, _ + 1) => some (.error .failed)
    | .silence => some (.error (.timeout url))
    | .hangUp => some (.error .failed) := by
  rw [find, DirectoryServer.entries]
  rcases s.search with ⟨entries, _ | code⟩ | _ | _ <;> rfl

theorem find_eq_ok (h : s.find order url wanted = some (.ok v)) : v ≠ [] ∧ s.Sends wanted v := by
  rw [find_eq] at h
  split at h
  · rename_i entries hsearch
    obtain ⟨found, hfound, h⟩ := Option.map_eq_some_iff.1 h
    obtain ⟨rfl, hne⟩ := choose_eq_ok_iff.1 h
    obtain ⟨entry, hentry, attributes, ha, hvalue⟩ := exists_mem_of_firstValue? hfound
    obtain ⟨name, values, hmem, hasked, hv⟩ := SortedEntry.exists_sent_of_value?_eq_some hvalue
    obtain ⟨bytes, hsent, hname⟩ := SentEntry.exists_sent ha hmem
    exact ⟨hne, entries, hsearch, entry, hentry, bytes, values, name, hsent, hname, hasked, hv⟩
  all_goals cases h

theorem find_isTimeout_iff : (∃ e, s.find order url wanted = some (.error e) ∧ e.isTimeout = true)
    ↔ s.search = .silence := by
  rw [find_eq]
  split
  · rename_i entries hsearch
    refine iff_of_false ?_ (by simp [hsearch])
    rintro ⟨e, h, ht⟩
    obtain ⟨found, -, h⟩ := Option.map_eq_some_iff.1 h
    rw [choose_isTimeout h] at ht
    cases ht
  all_goals simp_all [DirectoryError.isTimeout]

theorem find_eq_none (h : s.find order url wanted = none) : s.SendsUnreadable := by
  rw [find_eq] at h
  split at h
  · rename_i entries hsearch
    exact ⟨entries, hsearch, exists_mem_of_firstValue?_eq_none (Option.map_eq_none_iff.1 h)⟩
  all_goals cases h

theorem read_eq (hu : DirectoryUrl.parse? url = some u) : s.read url attributeName order =
    if s.isReachable = false then (some (.error .failed), [])
    else if s.isPrompt = false then (some (.error (.timeout url)), [])
    else match s.bind with
      | .answer 0 => (s.find order url (u.attributeName.getD attributeName),
          [.bind "" "",
            .search u.entryName .entry everyEntry (u.attributeName.getD attributeName)])
      | .answer (_ + 1) => (some (.error .failed), [.bind "" ""])
      | .silence => (some (.error (.timeout url)), [.bind "" ""])
      | .hangUp => (some (.error .failed), [.bind "" ""]) := by
  rw [read, hu]
  cases s.isReachable <;> cases s.isPrompt <;> rcases s.bind with (_ | _) | _ | _ <;> rfl

theorem read_of_isBound (hu : DirectoryUrl.parse? url = some u) (h : s.IsBound) :
    s.read url attributeName order
      = (s.find order url (u.attributeName.getD attributeName), [.bind "" "",
          .search u.entryName .entry everyEntry (u.attributeName.getD attributeName)]) := by
  rw [read_eq hu, h.1, h.2.1, h.2.2]
  rfl

/-- Nothing is searched for in front of a server that does not let a client bind. -/
theorem read_of_not_isBound (hu : DirectoryUrl.parse? url = some u) (h : ¬ s.IsBound) :
    ∃ e requests, s.read url attributeName order = (some (.error e), requests)
      ∧ (requests = [] ∨ requests = [.bind "" ""])
      ∧ (e.isTimeout = true ↔ s.LetsTimeRunOut) := by
  rw [IsBound] at h
  rw [read_eq hu, LetsTimeRunOut]
  split_ifs with hreach hprompt
  · exact ⟨_, _, rfl, .inl rfl, by simp [hreach, DirectoryError.isTimeout]⟩
  · exact ⟨_, _, rfl, .inl rfl, by simp [hreach, hprompt, DirectoryError.isTimeout]⟩
  rw [Bool.not_eq_false] at hreach hprompt
  split
  · rename_i hbind
    exact absurd ⟨hreach, hprompt, hbind⟩ h
  all_goals
    rename_i hbind
    exact ⟨_, _, rfl, .inr rfl, by simp [hreach, hprompt, hbind, DirectoryError.isTimeout]⟩

theorem letsTimeRunOut_iff_of_isBound (h : s.IsBound) : s.LetsTimeRunOut ↔ s.search = .silence := by
  simp [LetsTimeRunOut, h.1, h.2.1, h.2.2]

/-- In entries all of whose names are texts, an attribute that is sent has a value. -/
theorem exists_firstValue?_eq_some (order : TableOrder) : ∀ {entries : List SentEntry},
    (∀ entry ∈ entries, ∃ attributes, entry.attributes? = some attributes
      ∧ ∀ name values, (name, values) ∈ attributes → IsAskedFor wanted name → values ≠ []) →
    (∃ entry ∈ entries, ∃ attributes, entry.attributes? = some attributes
      ∧ ∃ name values, (name, values) ∈ attributes ∧ IsAskedFor wanted name) →
    ∃ v, firstValue? order wanted entries = some (some v)
  | entry :: entries, hall, hex => by
    obtain ⟨⟨attributes, ha, hvalues⟩, hall⟩ := List.forall_mem_cons.1 hall
    rw [firstValue?, ha, Option.bind_eq_bind, Option.bind_some]
    rcases hv : (SortedEntry.ofSent attributes).value? order wanted with _ | v
    · obtain ⟨entry', hentry, attributes', ha', hasked⟩ := hex
      rcases List.mem_cons.1 hentry with rfl | hentry
      · obtain rfl : attributes = attributes' := Option.some.inj (ha.symm.trans ha')
        have hsome := SortedEntry.isSome_value?_ofSent order hvalues hasked
        rw [hv] at hsome
        cases hsome
      · exact exists_firstValue?_eq_some order hall ⟨entry', hentry, attributes', ha', hasked⟩
    · exact ⟨v, rfl⟩

/-- A link that names an attribute which is sent, and never without values or with an empty one, is
read, if the names of all entries are texts. -/
theorem exists_read_eq_ok (hu : DirectoryUrl.parse? url = some u) (hbound : s.IsBound)
    (hsearch : s.search = .answer (entries, 0))
    (hall : ∀ entry ∈ entries, ∃ attributes, entry.attributes? = some attributes
      ∧ ∀ name values, (name, values) ∈ attributes →
        IsAskedFor (u.attributeName.getD attributeName) name → values ≠ [] ∧ [] ∉ values)
    (hex : ∃ entry ∈ entries, ∃ attributes, entry.attributes? = some attributes
      ∧ ∃ name values, (name, values) ∈ attributes
        ∧ IsAskedFor (u.attributeName.getD attributeName) name) :
    ∃ v, (s.read url attributeName order).1 = some (.ok v) := by
  obtain ⟨v, hv⟩ := exists_firstValue?_eq_some order (fun entry hentry =>
    (hall entry hentry).imp fun attributes h =>
      ⟨h.1, fun name values hm hn => (h.2 name values hm hn).1⟩) hex
  obtain ⟨entry, hentry, attributes, ha, hvalue⟩ := exists_mem_of_firstValue? hv
  obtain ⟨attributes', ha', hvalues⟩ := hall entry hentry
  obtain rfl : attributes = attributes' := Option.some.inj (ha.symm.trans ha')
  obtain ⟨name, values, hmem, hname, hvalue⟩ := SortedEntry.exists_sent_of_value?_eq_some hvalue
  have hne : v ≠ [] := fun hnil => (hvalues name values hmem hname).2 (hnil ▸ hvalue)
  refine ⟨v, ?_⟩
  rw [read_of_isBound hu hbound, find_eq, hsearch]
  simp only [hv, Option.map_some, choose_eq_ok_iff.2 ⟨rfl, hne⟩]

/-- Nobody is asked about a link that is none.  Otherwise a client binds and then searches, once it
is bound, the one entry of the link for the attribute of the link, or for the one given if the link
has none.  What it hands back is a whole value that was sent under such a name, and an error of time
tells that a limit ran out.  It breaks off only at an entry whose names are not all texts. -/
theorem read_conversation (s : DirectoryServer) (url attributeName : String) (order : TableOrder) :
    (DirectoryUrl.parse? url = none →
      s.read url attributeName order = (some (.error (.invalidUrl url)), []))
    ∧ ∀ u, DirectoryUrl.parse? url = some u →
      let wanted := u.attributeName.getD attributeName
      let search := DirectoryRequest.search u.entryName .entry "objectClass" wanted
      let r := s.read url attributeName order
      r.2 <+: [.bind "" "", search] ∧ (search ∈ r.2 ↔ s.IsBound)
        ∧ (∀ v, r.1 = some (.ok v) → s.IsBound ∧ v ≠ [] ∧ s.Sends wanted v)
        ∧ ((∃ e, r.1 = some (.error e) ∧ e.isTimeout = true) ↔ s.LetsTimeRunOut)
        ∧ (r.1 = none → s.IsBound ∧ s.SendsUnreadable) := by
  refine ⟨fun hu => by rw [read, hu], fun u hu => ?_⟩
  intro wanted search r
  by_cases hbound : s.IsBound
  · have hr : r = (s.find order url wanted, [.bind "" "", search]) := read_of_isBound hu hbound
    rw [hr, letsTimeRunOut_iff_of_isBound hbound]
    exact ⟨List.prefix_rfl, iff_of_true (by simp) hbound, fun v hv => ⟨hbound, find_eq_ok hv⟩,
      find_isTimeout_iff, fun hn => ⟨hbound, find_eq_none hn⟩⟩
  · obtain ⟨e, requests, hr, hrequests, htime⟩ := read_of_not_isBound hu hbound
    have hfront : requests <+: [.bind "" "", search] ∧ search ∉ requests := by
      rcases hrequests with rfl | rfl <;> simp [search]
    rw [show r = (some (.error e), requests) from hr]
    refine ⟨hfront.1, iff_of_false hfront.2 hbound, fun v hv => absurd hv (by simp), ?_, nofun⟩
    simpa using htime

/-- An entry without a name whose attributes have these names. -/
def entryOf (attributes : Attributes) : SentEntry :=
  ⟨[], attributes.map fun (name, values) => (Utf8.encode name, values)⟩

/-- A server whose entry has a textual and a binary attribute with options. -/
def sampleDirectory : DirectoryServer where
  isReachable := true
  bind := .answer 0
  search := .answer ([entryOf
    [("cn", [[0x43]]), ("CertificateRevocationList;binary", [[0x30], [0xff]])]], 0)

/-- Of a list that is asked for without options, the value that is no text comes first. -/
theorem read_conversation_of_sample :
    (sampleDirectory.read "ldap://ldap.bce-test.invalid/o%3DBCE?certificateRevocationList" "cn").1
        = some (.ok [0xff])
      ∧ sampleDirectory.Sends "certificateRevocationList" [0xff]
      ∧ sampleDirectory.read "http://ldap.bce-test.invalid/o%3DBCE" "cn"
        = (some (.error (.invalidUrl "http://ldap.bce-test.invalid/o%3DBCE")), []) := by
  have hr : (sampleDirectory.read
      "ldap://ldap.bce-test.invalid/o%3DBCE?certificateRevocationList" "cn").1
        = some (.ok [0xff]) := by
    decide +kernel
  have hsend := ((read_conversation sampleDirectory _ "cn" .asSent).2 ⟨.plain,
    "ldap.bce-test.invalid", 389, "o=BCE", some "certificateRevocationList"⟩
    (by decide +kernel)).2.2.1 _ hr
  exact ⟨hr, hsend.2.2, (read_conversation _ _ _ _).1 (by decide +kernel)⟩

end DirectoryServer

end SignerTrust
