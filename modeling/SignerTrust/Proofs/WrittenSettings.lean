import SignerTrust.Proofs.Overlay
import SignerTrust.Proofs.WrittenLine
import SignerTrust.Settings.Written

/-!
# Written settings come back

The text of settings is read as a document that gives each field but those that are absent
(`parse?_chars`), so that over the defaults it makes the same settings again (`withToml_of_chars`).
-/

namespace SignerTrust

open Toml SettingTree

namespace SettingKind

variable {α : Type}

/-- A value as it is written, with the TOML value that this stands for; an absent one is left
out. -/
def written : SettingKind α → α → Option (List Char × Value)
  | word => fun w => some ((toString w.toNat).toList, .integer w.toNat)
  | text => fun t => some ((writeString t).toList, .string t)
  | flag => fun b => some ((writeFlag b).toList, .boolean b)
  | optionalText => fun t => t.map fun t => ((writeString t).toList, .string t)
  | ecosystems => fun es =>
    some ((writeStrings (es.map Ecosystem.name)).toList,
      .array ((es.map Ecosystem.name).map .string))
  | optionalTexts => fun ts => ts.map fun ts => ((writeStrings ts).toList, .array (ts.map .string))

theorem readsAs_of_written {k : SettingKind α} {a : α} {w : List Char × Value} (h : k.Fits a)
    (hw : k.written a = some w) : ReadsAs w.1 w.2 := by
  cases k with
  | word =>
    obtain rfl := Option.some.inj hw
    exact readsAs_number h
  | text =>
    obtain rfl := Option.some.inj hw
    exact readsAs_string a
  | flag =>
    obtain rfl := Option.some.inj hw
    exact readsAs_flag a
  | optionalText =>
    obtain ⟨t, rfl, rfl⟩ := Option.map_eq_some_iff.1 hw
    exact readsAs_string t
  | ecosystems =>
    obtain rfl := Option.some.inj hw
    exact readsAs_strings _
  | optionalTexts =>
    obtain ⟨ts, rfl, rfl⟩ := Option.map_eq_some_iff.1 hw
    exact readsAs_strings ts

theorem ofTomlItems_strings (ts : List String) :
    ofTomlItems (ts.map .string) = ts.map SettingTree.text := by
  induction ts with
  | nil => rfl
  | cons t ts ih => rw [List.map_cons, ofTomlItems, ih, ofToml, List.map_cons]

theorem ofToml_of_written {k : SettingKind α} {a : α} {w : List Char × Value} (h : k.Fits a)
    (hw : k.written a = some w) : ofToml w.2 = k.tree a := by
  cases k with
  | word =>
    obtain rfl := Option.some.inj hw
    rw [tree_word h, ofToml]
  | text | flag =>
    obtain rfl := Option.some.inj hw
    rw [ofToml]
    rfl
  | optionalText =>
    obtain ⟨t, rfl, rfl⟩ := Option.map_eq_some_iff.1 hw
    rw [ofToml]
    rfl
  | ecosystems =>
    obtain rfl := Option.some.inj hw
    rw [ofToml, ofTomlItems_strings, List.map_map]
    rfl
  | optionalTexts =>
    obtain ⟨ts, rfl, rfl⟩ := Option.map_eq_some_iff.1 hw
    rw [ofToml, ofTomlItems_strings]
    rfl

end SettingKind

namespace Settings

variable {s : Settings}

/-- What is written of the fields of settings. -/
def written (s : Settings) (α : Type) (f : SettingField α) : Option (List Char × Value) :=
  f.kind.written (f.get s)

theorem toList_writeEntry {α : Type} {k : SettingKind α} {a : α} {value : String} {v : Value}
    (h : k.written a = some (value.toList, v)) (name : String) :
    (writeEntry name value).toList = entryLines [(name, k.written a)] := by
  rw [h]
  simp [writeEntry, entryLines]

theorem toList_writeOptional (name : String) (t : Option String) :
    (writeOptional name t).toList = entryLines [(name, SettingKind.optionalText.written t)] := by
  cases t with
  | none => rfl
  | some t => exact toList_writeEntry rfl name

theorem writeWord?_eq {name : String} {w : UInt64} (h : w.toNat < 0x8000000000000000) :
    writeWord? name w = some (writeEntry name (toString w.toNat)) :=
  if_pos h

theorem entryLines_append (es es' : List WrittenEntry) :
    entryLines (es ++ es') = entryLines es ++ entryLines es' :=
  List.flatMap_append

theorem write?_network (h : s.InRange) : ∃ text, s.network.write? = some text
    ∧ text.toList = (writeHeader "network").toList ++ entryLines (networkEntries s.written) := by
  refine ⟨_, by rw [NetworkSettings.write?, writeWord?_eq h.1, writeWord?_eq h.2.1,
    writeWord?_eq h.2.2]; rfl, ?_⟩
  have hw (name : String) (w : UInt64) := toList_writeEntry (k := .word) (a := w) rfl name
  have hu (t : String) := toList_writeEntry (k := .text) (a := t) rfl "user_agent"
  have he (es : List Ecosystem) :=
    toList_writeEntry (k := .ecosystems) (a := es) rfl "insecure_tls_ecosystems"
  simp only [String.toList_append, hw, hu, he, List.append_assoc, ← entryLines_append]
  rfl

theorem toList_write_fallback : s.responders.fallback.write.toList
    = (writeHeader "ocsp.fallback_responders").toList
      ++ entryLines (fallbackEntries s.written) := by
  unfold FallbackResponders.write
  simp only [String.toList_append, toList_writeOptional, List.append_assoc, ← entryLines_append]
  rfl

theorem toList_write_responders : s.responders.write.toList
    = (writeHeader "ocsp").toList ++ entryLines (responderEntries s.written) ++ '\n'
      :: s.responders.fallback.write.toList := by
  have hf (name : String) (b : Bool) := toList_writeEntry (k := .flag) (a := b) rfl name
  have hr : entryLines (responderEntries s.written)
      = entryLines [("prefer_ocsp", SettingKind.flag.written s.responders.preferred)]
        ++ entryLines [("crl_fallback", SettingKind.flag.written s.responders.listsAsFallback)]
        ++ entryLines [("send_nonce", SettingKind.flag.written s.responders.sendNonce)] := by
    rw [← entryLines_append, ← entryLines_append]
    rfl
  unfold ResponderSettings.write
  simp only [String.toList_append, hf, hr, List.append_assoc]
  rfl

theorem toList_write_lists : s.lists.write.toList
    = (writeHeader "crl").toList ++ entryLines (listEntries s.written) := by
  have hf (b : Bool) := toList_writeEntry (k := .flag) (a := b) rfl "verify_signature"
  have ha (t : String) := toList_writeEntry (k := .text) (a := t) rfl "ldap_attribute"
  have ho (ts : List String) :=
    toList_writeEntry (k := .optionalTexts) (a := some ts) rfl "override_points"
  have hl : entryLines (listEntries s.written)
      = entryLines [("verify_signature", SettingKind.flag.written s.lists.verifySignature)]
        ++ entryLines [("override_points",
          SettingKind.optionalTexts.written s.lists.overridePoints)]
        ++ entryLines [("ldap_attribute",
          SettingKind.text.written s.lists.directoryAttribute)] := by
    rw [← entryLines_append, ← entryLines_append]
    rfl
  unfold ListSettings.write
  rw [hl]
  cases s.lists.overridePoints with
  | none =>
    simp only [String.toList_append, hf, ha, List.append_assoc]
    rfl
  | some ts => simp only [String.toList_append, hf, ha, ho, List.append_assoc]

section Readable

variable (h : s.InRange)

include h

theorem readsAs_written {α : Type} (f : SettingField α) (w : List Char × Value)
    (hw : s.written α f = some w) : ReadsAs w.1 w.2 :=
  SettingKind.readsAs_of_written (h.fits f) hw

theorem readable_network : Readable (networkEntries s.written) := by
  refine readable_of_names ["connect_timeout_ms", "read_timeout_ms", "max_response_size",
    "user_agent", "insecure_tls_ecosystems"] rfl (by decide) ?_
  simp only [networkEntries, List.forall_mem_cons]
  exact ⟨readsAs_written h _, readsAs_written h _, readsAs_written h _, readsAs_written h _,
    readsAs_written h _, List.forall_mem_nil _⟩

theorem readable_responders : Readable (responderEntries s.written) := by
  refine readable_of_names ["prefer_ocsp", "crl_fallback", "send_nonce"] rfl (by decide) ?_
  simp only [responderEntries, List.forall_mem_cons]
  exact ⟨readsAs_written h _, readsAs_written h _, readsAs_written h _, List.forall_mem_nil _⟩

theorem readable_fallback : Readable (fallbackEntries s.written) := by
  refine readable_of_names ["banco_central", "banco_central_test", "security_data",
    "security_data_legacy"] rfl (by decide) ?_
  simp only [fallbackEntries, List.forall_mem_cons]
  exact ⟨readsAs_written h _, readsAs_written h _, readsAs_written h _, readsAs_written h _,
    List.forall_mem_nil _⟩

theorem readable_lists : Readable (listEntries s.written) := by
  refine readable_of_names ["verify_signature", "override_points", "ldap_attribute"] rfl
    (by decide) ?_
  simp only [listEntries, List.forall_mem_cons]
  exact ⟨readsAs_written h _, readsAs_written h _, readsAs_written h _, List.forall_mem_nil _⟩

end Readable

/-- The document as which the text of settings is read. -/
def document (s : Settings) : Entries :=
  [("network", .table .header (entryValues (networkEntries s.written))),
    ("ocsp", .table .header (entryValues (responderEntries s.written)
      ++ [("fallback_responders", .table .header (entryValues (fallbackEntries s.written)))])),
    ("crl", .table .header (entryValues (listEntries s.written)))]

/-- The characters of the text of settings. -/
def chars (s : Settings) : List Char :=
  '[' :: ("network".toList ++ ']' :: '\n' :: (entryLines (networkEntries s.written) ++ '\n'
    :: '[' :: ("ocsp".toList ++ ']' :: '\n' :: (entryLines (responderEntries s.written) ++ '\n'
    :: '[' :: ("ocsp".toList ++ '.' :: ("fallback_responders".toList ++ ']' :: '\n'
      :: (entryLines (fallbackEntries s.written) ++ '\n'
    :: '[' :: ("crl".toList ++ ']' :: '\n' :: (entryLines (listEntries s.written) ++ [])))))))))

theorem reads_chars (h : s.InRange) : Reads ⟨[], []⟩ s.chars s.document := by
  refine Reads.table (readable_network h) (by decide) (by simp) (.blank ?_)
  refine Reads.table (readable_responders h) (by decide) (by simp) (.blank ?_)
  refine Reads.tableBelow (readable_fallback h) (by decide) (by decide) (by simp) ?_ (.blank ?_)
  · have hn : "fallback_responders" ∉ ["prefer_ocsp", "crl_fallback", "send_nonce"] := by decide
    exact fun hm => hn (entryValues_names _ _ hm)
  · exact Reads.table (readable_lists h) (by decide) (by simp) (.nil _)

theorem toToml_of_inRange (h : s.InRange) :
    ∃ text, s.toToml = .ok text ∧ text.toList = s.chars := by
  obtain ⟨network, hn, ht⟩ := write?_network h
  refine ⟨network ++ "\n" ++ s.responders.write ++ "\n" ++ s.lists.write, by rw [toToml, hn], ?_⟩
  simp [chars, writeHeader, ht, toList_write_responders, toList_write_fallback, toList_write_lists]

/-- The text of settings is a document. -/
theorem parse?_chars (h : s.InRange) {text : String} (ht : text.toList = s.chars) :
    Toml.parse? text = some s.document := by
  refine parse?_of_reads ?_ (ht ▸ reads_chars h)
  rw [ht, chars, List.head?_cons]
  decide

theorem ofTomlEntries_entryValues (ws : List WrittenEntry) :
    ofTomlEntries (entryValues ws)
      = present (ws.map fun e => (e.1, e.2.map fun w => ofToml w.2)) := by
  induction ws with
  | nil => rfl
  | cons e ws ih =>
    obtain ⟨name, _ | w⟩ := e
    · exact ih
    · show ofTomlEntries ((name, w.2) :: entryValues ws) = _
      rw [ofTomlEntries, ih]
      rfl

/-- What a document gives for the fields of settings. -/
def given (s : Settings) (α : Type) (f : SettingField α) : Option SettingTree :=
  (s.written α f).map fun w => ofToml w.2

theorem ofTomlEntries_append (es es' : Entries) :
    ofTomlEntries (es ++ es') = ofTomlEntries es ++ ofTomlEntries es' := by
  induction es with
  | nil => rfl
  | cons e es ih => rw [List.cons_append, ofTomlEntries, ih, ofTomlEntries, List.cons_append]

theorem ofTomlEntries_document (s : Settings) : ofTomlEntries s.document = entriesOf s.given := by
  have hn : ofTomlEntries (entryValues (networkEntries s.written))
      = present (networkEntries s.given) :=
    ofTomlEntries_entryValues _
  have hf : ofTomlEntries (entryValues (fallbackEntries s.written))
      = present (fallbackEntries s.given) := ofTomlEntries_entryValues _
  have hr : ofTomlEntries (entryValues (responderEntries s.written))
      = present (responderEntries s.given) := ofTomlEntries_entryValues _
  have hl : ofTomlEntries (entryValues (listEntries s.written)) = present (listEntries s.given) :=
    ofTomlEntries_entryValues _
  simp only [document, ofTomlEntries, ofToml, ofTomlEntries_append, hn, hf, hr, hl]
  simp only [entriesOf, sections, allResponderEntries, present_append]
  rfl

theorem given_of_written_eq_some (h : s.InRange) {α : Type} {f : SettingField α}
    {w : List Char × Value} (hw : s.written α f = some w) :
    s.given α f = some (f.kind.tree (f.get s)) := by
  rw [given, hw, Option.map_some, SettingKind.ofToml_of_written (h.fits f) hw]

/-- Only what is absent by default is left out. -/
theorem get_of_written_eq_none {α : Type} {f : SettingField α} (hw : s.written α f = none) :
    f.get s = f.get {} := by
  cases f with
  | bancoCentral | bancoCentralTest | securityData | securityDataLegacy | overridePoints =>
    exact Option.map_eq_none_iff.1 hw
  | _ => cases hw

theorem withToml_of_chars (h : s.InRange) {text : String} (ht : text.toList = s.chars) :
    ({} : Settings).withToml text = .ok s := by
  have hp : parseToml? text = some (entriesOf s.given) := by
    rw [parseToml?, parse?_chars h ht, Option.map_some, ofTomlEntries_document]
  have ho : ({} : Settings).overlay? (entriesOf s.given) = some s := by
    refine overlay?_of_forall (by decide) fun f => ?_
    rcases hw : s.written _ f with _ | w
    · have hs : SparedBy f.path (entriesOf s.given) :=
        sparedBy_entriesOf (by rw [given, hw, Option.map_none])
      exact .inl ⟨hs, get_of_written_eq_none hw⟩
    · have hg : GivenBy (f.kind.tree (f.get s)) f.path (entriesOf s.given) :=
        givenBy_entriesOf (given_of_written_eq_some h hw)
      exact .inr ⟨_, f.kind.isLeaf_tree _, hg, f.kind.read?_tree (h.fits f)⟩
  rw [withToml, hp, Option.bind_some, ho]

/-- Settings whose numbers are below `2 ^ 63` can be written, and over the defaults their text makes
the same settings. -/
theorem withToml_toToml (s : Settings) (h : s.InRange) :
    ∃ text, s.toToml = .ok text ∧ ({} : Settings).withToml text = .ok s := by
  obtain ⟨text, htext, ht⟩ := toToml_of_inRange h
  exact ⟨text, htext, withToml_of_chars h ht⟩

/-- Settings whose strings need each way of writing, with the greatest number and an empty list. -/
def exacting : Settings :=
  { network := {
      connectTimeout := 9223372036854775807
      readTimeout := 0
      userAgent := "\"\"\" and ''' and \\ on\r\ntwo lines"
      insecureEcosystems := [.unknown, .securityData] }
    responders := {
      preferred := false
      fallback := { bancoCentral := some "", securityData := some "http://ocsp.invalid/\"" } }
    lists := { overridePoints := some [], directoryAttribute := "\t\x00\x7fñ" } }

theorem withToml_toToml_of_exacting : exacting.InRange
    ∧ ∃ text, exacting.toToml = .ok text ∧ ({} : Settings).withToml text = .ok exacting :=
  ⟨by decide, withToml_toToml exacting (by decide)⟩

end Settings

end SignerTrust
