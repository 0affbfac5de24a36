import SignerTrust.Proofs.SettingEntries
import SignerTrust.Proofs.WrittenLine

/-!
# Documents laid over settings

A document changes the fields that it gives and leaves the others (`overlay?_takes`,
`overlay?_keeps`), but for one thing: override points that are an empty list become no override
points.  Settings with a number past `2 ^ 63 - 1` take no document at all.
-/

namespace SignerTrust

open SettingTree

namespace SettingKind

variable {α : Type}

/-- Whether a value is an empty list. -/
def isEmptyList : SettingKind α → α → Bool
  | ecosystems => List.isEmpty
  | optionalTexts => fun ts => ts = some []
  | _ => fun _ => false

/-- What is kept of a value below a document: nothing of an empty list. -/
def kept (k : SettingKind α) (a : α) : Option SettingTree :=
  if k.isEmptyList a then none else some (k.tree a)

end SettingKind

namespace Settings

variable {s s' : Settings} {d : List (String × SettingTree)}

/-- Whether all numbers are below `2 ^ 63`. -/
def InRange (s : Settings) : Prop :=
  s.network.connectTimeout.toNat < 0x8000000000000000
    ∧ s.network.readTimeout.toNat < 0x8000000000000000
    ∧ s.network.maxResponseSize.toNat < 0x8000000000000000

instance (s : Settings) : Decidable s.InRange :=
  inferInstanceAs (Decidable (_ ∧ _ ∧ _))

/-- Settings without override points that are an empty list. -/
def settled (s : Settings) : Settings :=
  if s.lists.overridePoints = some [] then
    { s with lists := { s.lists with overridePoints := none } }
  else s

theorem settled_eq_self_iff : s.settled = s ↔ s.lists.overridePoints ≠ some [] := by
  unfold settled
  split_ifs with h
  · constructor
    · intro hs
      rw [← hs]
      simp
    · exact fun hn => absurd h hn
  · simp [h]

theorem InRange.fits (h : s.InRange) {α : Type} (f : SettingField α) : f.kind.Fits (f.get s) := by
  cases f with
  | connectTimeout => exact h.1
  | readTimeout => exact h.2.1
  | maxResponseSize => exact h.2.2
  | _ => trivial

theorem get_settled {α : Type} (f : SettingField α) :
    f.get s.settled = if f.kind.isEmptyList (f.get s) then f.get {} else f.get s := by
  unfold settled
  cases f with
  | overridePoints =>
    by_cases h : s.lists.overridePoints = some []
    · simp [SettingField.get, SettingField.kind, SettingKind.isEmptyList, h]
    · simp [SettingField.get, SettingField.kind, SettingKind.isEmptyList, h]
  | insecureEcosystems =>
    rcases hs : s.network.insecureEcosystems with _ | ⟨e, es⟩
    · split_ifs <;> simp [SettingField.get, hs]
    · split_ifs <;> simp_all [SettingField.get, SettingField.kind, SettingKind.isEmptyList]
  | _ => split_ifs <;> first | rfl | contradiction

/-- What is kept of the fields of settings below a document. -/
def kept (s : Settings) (α : Type) (f : SettingField α) : Option SettingTree :=
  f.kind.kept (f.get s)

theorem ofWord?_eq {w : UInt64} (h : SettingKind.word.Fits w) :
    ofWord? w = some (SettingKind.word.tree w) := by
  rw [SettingKind.tree_word h]
  exact if_pos h

theorem ofWord?_eq_none {w : UInt64} (h : ¬ w.toNat < 0x8000000000000000) : ofWord? w = none :=
  if_neg h

theorem listEntry_ecosystems (name : String) (es : List Ecosystem) :
    listEntry name (es.map Ecosystem.name) = present [(name, SettingKind.ecosystems.kept es)] := by
  cases es with
  | nil => rfl
  | cons e es =>
    simp [listEntry, present, SettingKind.kept, SettingKind.isEmptyList, SettingKind.tree]

theorem network_entries? (h : s.InRange) :
    s.network.entries? = some (present (networkEntries s.kept)) := by
  unfold NetworkSettings.entries?
  rw [ofWord?_eq h.1, ofWord?_eq h.2.1, ofWord?_eq h.2.2, listEntry_ecosystems]
  rfl

theorem lists_entries : s.lists.entries = present (listEntries s.kept) := by
  rcases ho : s.lists.overridePoints with _ | _ | ⟨t, ts⟩ <;>
    simp [ListSettings.entries, ho, listEntry, listEntries, present, kept, SettingField.get,
      SettingField.kind, SettingKind.kept, SettingKind.isEmptyList, SettingKind.tree]

theorem entries?_of_inRange (h : s.InRange) : s.entries? = some (entriesOf s.kept) := by
  unfold entries?
  rw [network_entries? h, lists_entries]
  rfl

theorem entries?_of_not_inRange (h : ¬ s.InRange) : s.entries? = none := by
  have hn : s.network.entries? = none := by
    unfold NetworkSettings.entries?
    simp only [InRange, not_and_or] at h
    rcases h with h | h | h <;>
      simp only [ofWord?_eq_none h, Option.bind_eq_bind, Option.bind_none, Option.bind_fun_none]
  rw [entries?, hn]
  rfl

/-- What stands at a field's path in the tree of settings is its value, or stands for it. -/
theorem holdsAt_kept (h : s.InRange) {α : Type} (f : SettingField α) :
    f.HoldsAt f.path ((table []).putAll (entriesOf s.kept)) (f.get s.settled) := by
  obtain ⟨k, path, hp⟩ := f.path_eq_cons
  rw [get_settled]
  by_cases he : f.kind.isEmptyList (f.get s)
  · have hs : Spares f.path (table (entriesOf s.kept)) := spares_entriesOf (if_pos he)
    refine ⟨none, ?_, if_pos he⟩
    rw [hp] at hs ⊢
    exact view?_putAll_of_spares _ hs rfl
  · have hg : Gives (f.kind.tree (f.get s)) f.path (table (entriesOf s.kept)) :=
      gives_entriesOf (if_neg he)
    refine ⟨some (f.kind.tree (f.get s)), ?_, ?_⟩
    · rw [hp] at hg ⊢
      exact view?_putAll_of_gives (f.kind.isLeaf_tree _) _ hg
    · rw [if_neg he]
      exact f.kind.read?_tree (h.fits f)

theorem overlay?_eq (h : s.InRange) (d : List (String × SettingTree)) :
    s.overlay? d = ofTree? (((table []).putAll (entriesOf s.kept)).overlay d) := by
  rw [overlay?, entries?_of_inRange h]
  rfl

theorem inRange_of_overlay? (h : s.overlay? d = some s') : s.InRange := by
  by_contra hn
  rw [overlay?, entries?_of_not_inRange hn] at h
  cases h

/-- A document leaves the fields that it spares. -/
theorem overlay?_keeps (h : s.overlay? d = some s') {α : Type} {f : SettingField α}
    (hs : SparedBy f.path d) : f.get s' = f.get s.settled := by
  have hr := inRange_of_overlay? h
  rw [overlay?_eq hr] at h
  exact ((holdsAt_kept hr f).overlay_of_spares hs).get_eq h

/-- A document changes the fields that it gives. -/
theorem overlay?_takes (h : s.overlay? d = some s') {α : Type} {f : SettingField α}
    {v : SettingTree} (hl : v.IsLeaf) (hg : GivenBy v f.path d) :
    f.kind.read? v = some (f.get s') := by
  rw [overlay?_eq (inRange_of_overlay? h)] at h
  exact f.get_of_ofTree? h (f.view?_overlay_of_gives hl _ hg)

/-- A document is accepted if each field is spared by it or given a value of its kind. -/
theorem overlay?_of_forall (h : s.InRange) (hf : ∀ {α : Type} (f : SettingField α),
    (SparedBy f.path d ∧ f.get s' = f.get s.settled)
    ∨ ∃ v, v.IsLeaf ∧ GivenBy v f.path d ∧ f.kind.read? v = some (f.get s')) :
    s.overlay? d = some s' := by
  rw [overlay?_eq h]
  refine ofTree?_of_holds fun f => ?_
  rcases hf f with ⟨hs, hg⟩ | ⟨v, hl, hg, hr⟩
  · rw [hg]
    exact (holdsAt_kept h f).overlay_of_spares hs
  · exact ⟨some v, f.view?_overlay_of_gives hl _ hg, hr⟩

/-- The empty document changes nothing but override points that are an empty list. -/
theorem overlay?_nil (h : s.InRange) : s.overlay? [] = some s.settled :=
  overlay?_of_forall h fun _ => .inl ⟨List.forall_mem_nil _, rfl⟩

theorem overlay?_of_not_inRange (h : ¬ s.InRange) : s.overlay? d = none := by
  rw [overlay?, entries?_of_not_inRange h]
  rfl

theorem withToml_of_parseToml? {text : String} (h : parseToml? text = some d) :
    s.withToml text = (match s.overlay? d with
      | some s => .ok s
      | none => .error .document) := by
  rw [withToml, h]
  rfl

theorem withJson_of_parseJson? {text : String} (h : parseJson? text = some d) :
    s.withJson text = (match s.overlay? d with
      | some s => .ok s
      | none => .error .document) := by
  rw [withJson, h]
  rfl

theorem withToml_empty (h : s.InRange) : s.withToml "" = .ok s.settled := by
  rw [withToml_of_parseToml? (d := []) rfl, overlay?_nil h]

theorem withJson_empty (h : s.InRange) : s.withJson "{}" = .ok s.settled := by
  rw [withJson_of_parseJson? (d := []) rfl, overlay?_nil h]

theorem not_withToml (h : ¬ s.InRange) (text : String) : s.withToml text = .error .document := by
  have hb : (parseToml? text).bind s.overlay? = none := by
    cases parseToml? text with
    | none => rfl
    | some d => exact overlay?_of_not_inRange h
  rw [withToml, hb]

theorem not_withJson (h : ¬ s.InRange) (text : String) : s.withJson text = .error .document := by
  have hb : (parseJson? text).bind s.overlay? = none := by
    cases parseJson? text with
    | none => rfl
    | some d => exact overlay?_of_not_inRange h
  rw [withJson, hb]

/-- Whether a document in TOML or JSON with the entries `d`, laid over `s`, makes `s'` of it. -/
def LaidOver (s : Settings) (d : List (String × SettingTree)) (s' : Settings) : Prop :=
  ∃ text, parseToml? text = some d ∧ s.withToml text = .ok s'
    ∨ parseJson? text = some d ∧ s.withJson text = .ok s'

theorem overlay?_of_laidOver (h : s.LaidOver d s') : s.overlay? d = some s' := by
  obtain ⟨text, ⟨hd, h⟩ | ⟨hd, h⟩⟩ := h
  · rw [withToml_of_parseToml? hd] at h
    split at h
    · rename_i hs
      rw [hs, Except.ok.inj h]
    · cases h
  · rw [withJson_of_parseJson? hd] at h
    split at h
    · rename_i hs
      rw [hs, Except.ok.inj h]
    · cases h

/-- A document that is accepted leaves the fields that it spares and changes those that it gives, of
which a value that fits is taken as it is.  The empty document is accepted exactly if all numbers
are below `2 ^ 63`, and no other is if they are not; it changes nothing exactly if the override
points are no empty list. -/
theorem laidOver_fieldwise (s : Settings) :
    (∀ d s', s.LaidOver d s' → ∀ {α : Type} (f : SettingField α),
      (SparedBy f.path d → f.get s' = f.get s.settled)
      ∧ (∀ v, v.IsLeaf → GivenBy v f.path d → f.kind.read? v = some (f.get s'))
      ∧ ∀ a, f.kind.Fits a → GivenBy (f.kind.tree a) f.path d → f.get s' = a)
    ∧ (s.InRange → s.withToml "" = .ok s.settled ∧ s.withJson "{}" = .ok s.settled)
    ∧ (¬ s.InRange → ∀ text,
      s.withToml text = .error .document ∧ s.withJson text = .error .document)
    ∧ (s.settled = s ↔ s.lists.overridePoints ≠ some []) := by
  refine ⟨fun d s' h α f => ?_, fun h => ⟨withToml_empty h, withJson_empty h⟩,
    fun h text => ⟨not_withToml h text, not_withJson h text⟩, settled_eq_self_iff⟩
  have h := overlay?_of_laidOver h
  refine ⟨fun hs => overlay?_keeps h hs, fun v hl hg => overlay?_takes h hl hg, fun a ha hg => ?_⟩
  have ht := overlay?_takes h (f.kind.isLeaf_tree a) hg
  rw [f.kind.read?_tree ha] at ht
  exact (Option.some.inj ht).symm

/-- A document in TOML with one value in one section. -/
theorem parseToml?_oneValue {category name text : String} {w : List Char} {v : Toml.Value}
    (hc : Toml.IsKey category) (hn : Toml.IsKey name) (hw : Toml.ReadsAs w v)
    (ht : text.toList = '[' :: (category.toList ++ ']' :: '\n'
      :: (name.toList ++ ' ' :: '=' :: ' ' :: (w ++ ['\n'])))) :
    parseToml? text = some (oneValue category name (ofToml v)) := by
  have hr : Toml.Readable [(name, some (w, v))] :=
    Toml.readable_of_names [name] rfl
      ⟨List.nodup_singleton name, List.forall_mem_singleton.2 hn⟩ (by simpa using hw)
  have hl : Toml.Reads ⟨[], []⟩ _ _ := Toml.Reads.table hr hc List.not_mem_nil (.nil _)
  have hp : Toml.parse? text = some [(category, .table .header [(name, v)])] := by
    refine Toml.parse?_of_reads ?_ ?_
    · rw [ht, List.head?_cons]
      decide
    · rw [ht]
      simpa [Toml.entryLines, Toml.entryValues] using hl
  rw [parseToml?, hp]
  simp [oneValue, ofToml, ofTomlEntries]

/-- Settings with override points. -/
def overridden : Settings :=
  { lists := { overridePoints := some ["http://crl.invalid/a.crl"] } }

/-- The entries of a document on the name by which servers are asked. -/
def agentEntries : List (String × SettingTree) :=
  oneValue "network" "user_agent" (text "firma")

theorem parseToml?_agent :
    parseToml? "[network]\nuser_agent = \"firma\"\n" = some agentEntries := by
  have hw : Toml.ReadsAs "\"firma\"".toList (.string "firma") := by
    have hs : (Toml.writeString "firma").toList = "\"firma\"".toList := by decide
    exact hs ▸ Toml.readsAs_string "firma"
  have hc : Toml.IsKey "network" := by decide
  have hn : Toml.IsKey "user_agent" := by decide
  rw [parseToml?_oneValue hc hn hw rfl, ofToml]
  rfl

theorem sparedBy_agent : SparedBy SettingField.overridePoints.path agentEntries :=
  sparedBy_oneValue (by decide) (by decide) _ (by decide)

theorem givenBy_agent :
    GivenBy (SettingField.userAgent.kind.tree "firma") SettingField.userAgent.path agentEntries :=
  givenBy_oneValue (by decide) (by decide) _

theorem overridden_withToml_agent :
    overridden.withToml "[network]\nuser_agent = \"firma\"\n"
      = .ok { overridden with network := { userAgent := "firma" } } := by
  rw [withToml_of_parseToml? parseToml?_agent, overlay?_of_forall (by decide) fun f => ?_]
  cases f with
  | userAgent => exact .inr ⟨text "firma", trivial, givenBy_agent, rfl⟩
  | _ => exact .inl ⟨sparedBy_oneValue (by decide) (by decide) _ (by decide), rfl⟩

theorem laidOver_fieldwise_of_agent :
    overridden.LaidOver agentEntries { overridden with network := { userAgent := "firma" } }
    ∧ SparedBy SettingField.overridePoints.path agentEntries
    ∧ GivenBy (SettingField.userAgent.kind.tree "firma") SettingField.userAgent.path agentEntries
    ∧ SettingField.overridePoints.get { overridden with network := { userAgent := "firma" } }
      = SettingField.overridePoints.get overridden.settled
    ∧ SettingField.userAgent.get { overridden with network := { userAgent := "firma" } } = "firma"
    ∧ overridden.withToml "" = .ok overridden := by
  have hl : overridden.LaidOver agentEntries
      { overridden with network := { userAgent := "firma" } } :=
    ⟨_, .inl ⟨parseToml?_agent, overridden_withToml_agent⟩⟩
  obtain ⟨hf, he, -, hs⟩ := laidOver_fieldwise overridden
  have he := (he (by decide)).1
  rw [hs.2 (by decide)] at he
  exact ⟨hl, sparedBy_agent, givenBy_agent, (hf _ _ hl .overridePoints).1 sparedBy_agent,
    (hf _ _ hl .userAgent).2.2 _ trivial givenBy_agent, he⟩

theorem parseToml?_noOverridePoints : parseToml? "[crl]\noverride_points = []\n"
    = some (oneValue "crl" "override_points" (list [])) := by
  have hc : Toml.IsKey "crl" := by decide
  have hn : Toml.IsKey "override_points" := by decide
  rw [parseToml?_oneValue hc hn (Toml.readsAs_strings []) rfl, List.map_nil, ofToml, ofTomlItems]

theorem withToml_noOverridePoints :
    ({} : Settings).withToml "[crl]\noverride_points = []\n"
      = .ok { lists := { overridePoints := some [] } } := by
  rw [withToml_of_parseToml? parseToml?_noOverridePoints,
    overlay?_of_forall (by decide) fun f => ?_]
  cases f with
  | overridePoints =>
    exact .inr ⟨list [], trivial, givenBy_oneValue (by decide) (by decide) _, rfl⟩
  | _ => exact .inl ⟨sparedBy_oneValue (by decide) (by decide) _ (by decide), rfl⟩

/-- An empty list of override points is lost below the empty document. -/
theorem emptyDocument_drops_overridePoints :
    ({} : Settings).withToml "[crl]\noverride_points = []\n"
        = .ok { lists := { overridePoints := some [] } }
      ∧ ({ lists := { overridePoints := some [] } } : Settings).withToml "" = .ok {} :=
  ⟨withToml_noOverridePoints, withToml_empty (by decide)⟩

end Settings

end SignerTrust
