import Mathlib.Data.List.Nodup
import Mathlib.Data.List.TakeWhile
import SignerTrust.Proofs.SettingField

/-!
# Documents with entries for fields

Settings laid under a document and settings as they are written are both documents of one form: the
sections with an entry for each field, some of which are left out.  Such a document gives the fields
that it has (`givenBy_entriesOf`) and spares those that it leaves out (`sparedBy_entriesOf`).  So
does a document with one value (`givenBy_oneValue`, `sparedBy_oneValue`).
-/

namespace SignerTrust

open SettingTree

/-- Whether a name is in lower case, and no path of several steps. -/
def IsPlainName (name : String) : Prop :=
  name.toList ≠ [] ∧ name.toList.all (fun c => SettingPath.isNameChar c && Lower.isSmall c) = true

instance (name : String) : Decidable (IsPlainName name) :=
  inferInstanceAs (Decidable (_ ∧ _))

section PlainName

variable {name : String} (h : IsPlainName name)

include h

theorem IsPlainName.forall_mem :
    ∀ c ∈ name.toList, SettingPath.isNameChar c = true ∧ Lower.isSmall c = true :=
  fun c hc => Bool.and_eq_true_iff.1 (List.all_eq_true.1 h.2 c hc)

theorem IsPlainName.lower_eq : Lower.text name = name :=
  Lower.text_of_isSmall fun c hc => (h.forall_mem c hc).2

theorem IsPlainName.ofText_eq : SettingPath.ofText name = ⟨name, []⟩ := by
  have hc : ∀ c ∈ name.toList, SettingPath.isNameChar c = true := fun c hc => (h.forall_mem c hc).1
  have hn : SettingPath.name? name.toList = some (name, []) := by
    rw [SettingPath.name?, List.takeWhile_eq_self_iff.2 hc, List.dropWhile_eq_nil_iff.2 hc]
    obtain ⟨c, cs, he⟩ := List.exists_cons_of_ne_nil h.1
    rw [he]
    show some (String.ofList (c :: cs), []) = _
    rw [← he, String.ofList_toList]
  rw [SettingPath.ofText, hn]
  rfl

end PlainName

namespace SettingTree

/-- The entries that are not left out. -/
def present (es : List (String × Option SettingTree)) : List (String × SettingTree) :=
  es.filterMap fun e => e.2.map fun v => (e.1, v)

/-- Whether the names of entries differ and are in lower case. -/
def Plain (es : List (String × Option SettingTree)) : Prop :=
  (es.map fun e => Lower.text e.1) = es.map Prod.fst ∧ (es.map Prod.fst).Nodup

section Present

variable {es : List (String × Option SettingTree)} {name : String} {path : List String}

theorem present_append (es es' : List (String × Option SettingTree)) :
    present (es ++ es') = present es ++ present es' :=
  List.filterMap_append

theorem plain_of_names (names : List String) (hn : es.map Prod.fst = names)
    (h : (∀ name ∈ names, IsPlainName name) ∧ names.Nodup) : Plain es := by
  subst hn
  refine ⟨List.map_inj_left.2 fun e he => ?_, h.2⟩
  exact (h.1 e.1 (List.mem_map_of_mem he)).lower_eq

theorem Plain.lower_eq {e : String × Option SettingTree} (h : Plain es) (he : e ∈ es) :
    Lower.text e.1 = e.1 :=
  List.map_inj_left.1 h.1 e he

theorem Plain.ne {e e' : String × Option SettingTree}
    {before after : List (String × Option SettingTree)} (h : Plain (before ++ e :: after))
    (he' : e' ∈ before ++ after) : Lower.text e'.1 ≠ e.1 := by
  intro heq
  have hd := h.2
  rw [List.map_append, List.map_cons, List.nodup_middle, List.nodup_cons, ← List.map_append] at hd
  refine hd.1 (List.mem_map.2 ⟨e', he', (h.lower_eq ?_).symm.trans heq⟩)
  rcases List.mem_append.1 he' with hb | ha
  · exact List.mem_append_left _ hb
  · exact List.mem_append_right _ (List.mem_cons_of_mem _ ha)

/-- An entry that is there gives what its value gives. -/
theorem Plain.gives {u v : SettingTree} (h : Plain es) (hm : (name, some u) ∈ es)
    (hg : Gives v path u) : Gives v (name :: path) (table (present es)) := by
  have hk := h.lower_eq hm
  obtain ⟨before, after, rfl⟩ := List.append_of_mem hm
  refine ⟨present before, (name, u), present after, ?_, hk, hg, fun e he heq => ?_⟩
  · rw [present_append]
    rfl
  · obtain ⟨e', he', hv⟩ := List.mem_filterMap.1 he
    obtain ⟨v, -, rfl⟩ := Option.map_eq_some_iff.1 hv
    exact absurd heq (h.ne (List.mem_append_right _ he'))

/-- An entry that is left out, or whose value spares the rest of a path, spares the path. -/
theorem Plain.spares {o : Option SettingTree} (h : Plain es) (hm : (name, o) ∈ es)
    (hs : ∀ u, o = some u → Spares path u) : Spares (name :: path) (table (present es)) := by
  obtain ⟨before, after, rfl⟩ := List.append_of_mem hm
  intro e he heq
  obtain ⟨e', he', hv⟩ := List.mem_filterMap.1 he
  obtain ⟨v, ho, rfl⟩ := Option.map_eq_some_iff.1 hv
  rcases List.mem_append.1 he' with hb | ha
  · exact absurd heq (h.ne (List.mem_append_left _ hb))
  · rcases List.mem_cons.1 ha with rfl | ha
    · exact hs v ho
    · exact absurd heq (h.ne (List.mem_append_right _ ha))

end Present

/-- Where a path leads to from entries: to an entry, which may be left out. -/
inductive EntryAt : List String → List (String × Option SettingTree) → Option SettingTree → Prop
  | here {name : String} {es : List (String × Option SettingTree)} {o : Option SettingTree} :
    Plain es → (name, o) ∈ es → EntryAt [name] es o
  | inside {name : String} {path : List String} {es inner : List (String × Option SettingTree)}
    {o : Option SettingTree} : Plain es → (name, some (table (present inner))) ∈ es →
    EntryAt path inner o → EntryAt (name :: path) es o

theorem EntryAt.gives {path : List String} {es : List (String × Option SettingTree)}
    {v : SettingTree} (h : EntryAt path es (some v)) : Gives v path (table (present es)) := by
  generalize ho : some v = o at h
  induction h with
  | here hp hm => exact hp.gives (ho ▸ hm) rfl
  | inside hp hm _ ih => exact hp.gives hm (ih ho)

theorem EntryAt.spares {path : List String} {es : List (String × Option SettingTree)}
    (h : EntryAt path es none) : Spares path (table (present es)) := by
  generalize ho : none = o at h
  induction h with
  | here hp hm => exact hp.spares hm fun u hu => by simp [hu] at ho
  | inside hp hm _ ih =>
    refine hp.spares hm fun u hu => ?_
    obtain rfl := Option.some.inj hu
    exact ih ho

/-- The document with one value in one section. -/
def oneValue (category name : String) (v : SettingTree) : List (String × SettingTree) :=
  [(category, table [(name, v)])]

section OneValue

variable {category name : String} (hc : IsPlainName category) (hn : IsPlainName name)

include hc hn

/-- The document gives the field that it names. -/
theorem givenBy_oneValue (v : SettingTree) :
    GivenBy v [category, name] (oneValue category name v) := by
  have hg : Gives v [name] (table [(name, v)]) :=
    ⟨[], _, [], rfl, hn.lower_eq, rfl, List.forall_mem_nil _⟩
  refine ⟨[], _, [], rfl, ?_, ⟨table [(name, v)], ?_, hg⟩, List.forall_mem_nil _⟩ <;>
    rw [hc.ofText_eq]
  · exact congrArg some hc.lower_eq.symm
  · rfl

/-- The document spares the fields that it does not name. -/
theorem sparedBy_oneValue (v : SettingTree) {k m : String} {path : List String}
    (h : k = category → m ≠ name) : SparedBy (k :: m :: path) (oneValue category name v) := by
  intro e he heq
  obtain rfl := List.mem_singleton.1 he
  rw [hc.ofText_eq, List.head?_cons, hc.lower_eq, Option.some.injEq] at heq
  refine ⟨table [(name, v)], by rw [hc.ofText_eq]; rfl, fun e he hm => ?_⟩
  obtain rfl := List.mem_singleton.1 he
  exact absurd (hn.lower_eq.symm.trans hm).symm (h heq)

end OneValue

end SettingTree

section Entries

variable {β : Type} (g : (α : Type) → SettingField α → Option β)

/-- What `g` has for how servers are reached. -/
def networkEntries : List (String × Option β) :=
  [("connect_timeout_ms", g _ .connectTimeout), ("read_timeout_ms", g _ .readTimeout),
    ("max_response_size", g _ .maxResponseSize), ("user_agent", g _ .userAgent),
    ("insecure_tls_ecosystems", g _ .insecureEcosystems)]

/-- What `g` has for how responders are asked. -/
def responderEntries : List (String × Option β) :=
  [("prefer_ocsp", g _ .preferred), ("crl_fallback", g _ .listsAsFallback),
    ("send_nonce", g _ .sendNonce)]

/-- What `g` has for the responders of certificates that name none. -/
def fallbackEntries : List (String × Option β) :=
  [("banco_central", g _ .bancoCentral), ("banco_central_test", g _ .bancoCentralTest),
    ("security_data", g _ .securityData), ("security_data_legacy", g _ .securityDataLegacy)]

/-- What `g` has for how revocation lists are checked. -/
def listEntries : List (String × Option β) :=
  [("verify_signature", g _ .verifySignature), ("override_points", g _ .overridePoints),
    ("ldap_attribute", g _ .directoryAttribute)]

end Entries

section EntriesOf

variable (g : (α : Type) → SettingField α → Option SettingTree)

/-- The entries on asking responders, with the table of those for certificates that name none. -/
def allResponderEntries : List (String × Option SettingTree) :=
  responderEntries g ++ [("fallback_responders", some (table (present (fallbackEntries g))))]

/-- The sections with the entries that `g` has for the fields. -/
def sections : List (String × Option SettingTree) :=
  [("network", some (table (present (networkEntries g)))),
    ("ocsp", some (table (present (allResponderEntries g)))),
    ("crl", some (table (present (listEntries g))))]

/-- The document with the entries that `g` has for the fields. -/
def entriesOf : List (String × SettingTree) :=
  present (sections g)

theorem plain_sections : Plain (sections g) :=
  plain_of_names ["network", "ocsp", "crl"] rfl (by decide)

theorem plain_networkEntries : Plain (networkEntries g) :=
  plain_of_names ["connect_timeout_ms", "read_timeout_ms", "max_response_size", "user_agent",
    "insecure_tls_ecosystems"] rfl (by decide)

theorem plain_fallbackEntries : Plain (fallbackEntries g) :=
  plain_of_names ["banco_central", "banco_central_test", "security_data", "security_data_legacy"]
    rfl (by decide)

theorem plain_allResponderEntries : Plain (allResponderEntries g) :=
  plain_of_names ["prefer_ocsp", "crl_fallback", "send_nonce", "fallback_responders"] rfl
    (by decide)

theorem plain_listEntries : Plain (listEntries g) :=
  plain_of_names ["verify_signature", "override_points", "ldap_attribute"] rfl (by decide)

variable {g} {name : String} {o : Option SettingTree}

theorem entryAt_network (h : (name, o) ∈ networkEntries g) :
    EntryAt ["network", name] (sections g) o :=
  .inside (plain_sections g) (by simp [sections]) (.here (plain_networkEntries g) h)

theorem entryAt_responders (h : (name, o) ∈ responderEntries g) :
    EntryAt ["ocsp", name] (sections g) o :=
  .inside (plain_sections g) (by simp [sections])
    (.here (plain_allResponderEntries g) (List.mem_append_left _ h))

theorem entryAt_fallback (h : (name, o) ∈ fallbackEntries g) :
    EntryAt ["ocsp", "fallback_responders", name] (sections g) o :=
  .inside (plain_sections g) (by simp [sections]) (.inside (plain_allResponderEntries g)
    (by simp [allResponderEntries]) (.here (plain_fallbackEntries g) h))

theorem entryAt_lists (h : (name, o) ∈ listEntries g) : EntryAt ["crl", name] (sections g) o :=
  .inside (plain_sections g) (by simp [sections]) (.here (plain_listEntries g) h)

theorem entryAt_sections {α : Type} (f : SettingField α) :
    EntryAt f.path (sections g) (g α f) := by
  cases f with
  | connectTimeout | readTimeout | maxResponseSize | userAgent | insecureEcosystems =>
    exact entryAt_network (by simp [networkEntries])
  | preferred | listsAsFallback | sendNonce => exact entryAt_responders (by simp [responderEntries])
  | bancoCentral | bancoCentralTest | securityData | securityDataLegacy =>
    exact entryAt_fallback (by simp [fallbackEntries])
  | verifySignature | overridePoints | directoryAttribute =>
    exact entryAt_lists (by simp [listEntries])

variable {α : Type} {f : SettingField α}

/-- The document gives the fields that it has. -/
theorem gives_entriesOf {v : SettingTree} (h : g α f = some v) :
    Gives v f.path (table (entriesOf g)) :=
  (h ▸ entryAt_sections f : EntryAt f.path (sections g) (some v)).gives

/-- The document spares the fields that it leaves out. -/
theorem spares_entriesOf (h : g α f = none) : Spares f.path (table (entriesOf g)) :=
  (h ▸ entryAt_sections f : EntryAt f.path (sections g) none).spares

theorem ofText_of_mem {e : String × SettingTree} (h : e ∈ entriesOf g) :
    SettingPath.ofText e.1 = ⟨e.1, []⟩ := by
  have hn : ∀ name ∈ ["network", "ocsp", "crl"], IsPlainName name := by decide
  obtain ⟨e', he', hv⟩ := List.mem_filterMap.1 h
  obtain ⟨v, -, rfl⟩ := Option.map_eq_some_iff.1 hv
  exact (hn e'.1 (List.mem_map_of_mem he')).ofText_eq

theorem sparedBy_entriesOf (h : g α f = none) : SparedBy f.path (entriesOf g) := by
  have hs := spares_entriesOf h
  obtain ⟨k, path, hp⟩ := f.path_eq_cons
  rw [hp] at hs ⊢
  intro e he heq
  rw [ofText_of_mem he] at heq ⊢
  exact ⟨e.2, rfl, hs e he (Option.some.inj heq).symm⟩

theorem givenBy_entriesOf {v : SettingTree} (h : g α f = some v) :
    GivenBy v f.path (entriesOf g) := by
  have hg := gives_entriesOf h
  obtain ⟨k, path, hp⟩ := f.path_eq_cons
  rw [hp] at hg ⊢
  obtain ⟨before, e, after, hd, hk, hg, ha⟩ := hg
  have hm (e' : String × SettingTree) (he : e' ∈ e :: after) :
      SettingPath.ofText e'.1 = ⟨e'.1, []⟩ :=
    ofText_of_mem (hd ▸ List.mem_append_right _ he)
  refine ⟨before, e, after, hd, ?_, ⟨e.2, ?_, hg⟩, fun e' he' heq => ?_⟩
  · rw [hm e List.mem_cons_self, hk]
    rfl
  · rw [hm e List.mem_cons_self]
    rfl
  · rw [hm e' (List.mem_cons_of_mem _ he')] at heq ⊢
    exact ⟨e'.2, rfl, ha e' he' (Option.some.inj heq).symm⟩

end EntriesOf

end SignerTrust
