import SignerTrust.Proofs.TreeView
import SignerTrust.Settings.Document

/-!
# The fields of settings

Each field has a path in documents and a kind of values.  Settings are read from a tree field by
field: what is read holds at every path (`get_of_ofTree?`), and settings whose fields all hold are
what is read (`ofTree?_of_holds`).
-/

namespace SignerTrust

open SettingTree

/-- The kinds of values that fields have. -/
inductive SettingKind : Type → Type
  | word : SettingKind UInt64
  | text : SettingKind String
  | flag : SettingKind Bool
  | optionalText : SettingKind (Option String)
  | ecosystems : SettingKind (List Ecosystem)
  | optionalTexts : SettingKind (Option (List String))

namespace SettingKind

variable {α : Type}

/-- Reads a value of a kind. -/
def read? : SettingKind α → SettingTree → Option α
  | word => SettingTree.word?
  | text => SettingTree.text?
  | flag => SettingTree.flag?
  | optionalText => optional? SettingTree.text?
  | ecosystems => list? ecosystem?
  | optionalTexts => optional? (list? SettingTree.text?)

/-- The tree as which a document gives a value; a word past `2 ^ 63 - 1` comes as a float. -/
def tree : SettingKind α → α → SettingTree
  | word => fun w =>
    if w.toNat < 0x8000000000000000 then .integer w.toNat else .float (Binary64.ofNat w.toNat)
  | text => .text
  | flag => .flag
  | optionalText => ofOptional
  | ecosystems => fun es => .list (es.map fun e => .text e.name)
  | optionalTexts => fun ts => (ts.map fun ts => .list (ts.map .text)).getD absent

/-- Whether a document can give a value exactly: any but a word past `2 ^ 63 - 1`. -/
def Fits : SettingKind α → α → Prop
  | word, w => w.toNat < 0x8000000000000000
  | _, _ => True

theorem tree_word {w : UInt64} (h : word.Fits w) : word.tree w = .integer w.toNat :=
  if_pos h

theorem isLeaf_tree (k : SettingKind α) (a : α) : (k.tree a).IsLeaf := by
  cases k with
  | word =>
    simp only [tree]
    split_ifs <;> trivial
  | optionalText => cases a <;> trivial
  | optionalTexts => cases a <;> trivial
  | _ => trivial

theorem list?_map {β : Type} {read? : SettingTree → Option β} {f : β → SettingTree}
    (h : ∀ b, read? (f b) = some b) (bs : List β) : list? read? (.list (bs.map f)) = some bs := by
  unfold list?
  induction bs with
  | nil => rfl
  | cons b bs ih => simp [h, ih]

theorem ecosystem?_name (e : Ecosystem) : ecosystem? (.text e.name) = some e := by
  have hs : e.name.toList.all Lower.isSmall = true := by cases e <;> decide
  have hl : Lower.text e.name = e.name := Lower.text_of_isSmall (List.all_eq_true.1 hs)
  rw [ecosystem?, ecosystem?.ofLower, hl]
  cases e <;> decide

/-- A value comes back from its tree. -/
theorem read?_tree (k : SettingKind α) {a : α} (h : k.Fits a) : k.read? (k.tree a) = some a := by
  cases k with
  | word =>
    have hr : (0 : Int) ≤ a.toNat ∧ (a.toNat : Int) < UInt64.size := by
      have := a.toNat_lt
      simp only [UInt64.size]
      omega
    rw [tree_word h]
    simp only [read?, word?, wordOf?, if_pos hr, Int.toNat_natCast, UInt64.ofNat_toNat]
  | text => rfl
  | flag => rfl
  | optionalText => cases a <;> rfl
  | ecosystems => exact list?_map ecosystem?_name a
  | optionalTexts =>
    rcases a with _ | ts
    · rfl
    · have hl : ∀ t, SettingTree.text? (.text t) = some t := fun _ => rfl
      show (list? SettingTree.text? (.list (ts.map .text))).map some = some (some ts)
      rw [list?_map hl, Option.map_some]

end SettingKind

/-- Whether a value is read from what stands somewhere: it is the default if nothing does. -/
def Stands {α : Type} (read? : SettingTree → Option α) (default : α) (o : Option SettingTree)
    (a : α) : Prop :=
  match o with
  | none => a = default
  | some t => read? t = some a

theorem Stands.unique {α : Type} {read? : SettingTree → Option α} {d a b : α}
    {o : Option SettingTree} (ha : Stands read? d o a) (hb : Stands read? d o b) : a = b := by
  cases o with
  | none => exact ha.trans hb.symm
  | some t => exact Option.some.inj (ha.symm.trans hb)

/-- The fields of settings, each with the type of its values. -/
inductive SettingField : Type → Type
  | connectTimeout : SettingField UInt64
  | readTimeout : SettingField UInt64
  | maxResponseSize : SettingField UInt64
  | userAgent : SettingField String
  | insecureEcosystems : SettingField (List Ecosystem)
  | preferred : SettingField Bool
  | listsAsFallback : SettingField Bool
  | sendNonce : SettingField Bool
  | bancoCentral : SettingField (Option String)
  | bancoCentralTest : SettingField (Option String)
  | securityData : SettingField (Option String)
  | securityDataLegacy : SettingField (Option String)
  | verifySignature : SettingField Bool
  | overridePoints : SettingField (Option (List String))
  | directoryAttribute : SettingField String

namespace SettingField

variable {α : Type}

/-- The names that lead to a field in a document. -/
def path : SettingField α → List String
  | connectTimeout => ["network", "connect_timeout_ms"]
  | readTimeout => ["network", "read_timeout_ms"]
  | maxResponseSize => ["network", "max_response_size"]
  | userAgent => ["network", "user_agent"]
  | insecureEcosystems => ["network", "insecure_tls_ecosystems"]
  | preferred => ["ocsp", "prefer_ocsp"]
  | listsAsFallback => ["ocsp", "crl_fallback"]
  | sendNonce => ["ocsp", "send_nonce"]
  | bancoCentral => ["ocsp", "fallback_responders", "banco_central"]
  | bancoCentralTest => ["ocsp", "fallback_responders", "banco_central_test"]
  | securityData => ["ocsp", "fallback_responders", "security_data"]
  | securityDataLegacy => ["ocsp", "fallback_responders", "security_data_legacy"]
  | verifySignature => ["crl", "verify_signature"]
  | overridePoints => ["crl", "override_points"]
  | directoryAttribute => ["crl", "ldap_attribute"]

theorem path_eq_cons (f : SettingField α) : ∃ name names, f.path = name :: names := by
  cases f <;> exact ⟨_, _, rfl⟩

/-- The kind of a field's values. -/
def kind : SettingField α → SettingKind α
  | connectTimeout => .word
  | readTimeout => .word
  | maxResponseSize => .word
  | userAgent => .text
  | insecureEcosystems => .ecosystems
  | preferred => .flag
  | listsAsFallback => .flag
  | sendNonce => .flag
  | bancoCentral => .optionalText
  | bancoCentralTest => .optionalText
  | securityData => .optionalText
  | securityDataLegacy => .optionalText
  | verifySignature => .flag
  | overridePoints => .optionalTexts
  | directoryAttribute => .text

/-- The value of a field. -/
def get : SettingField α → Settings → α
  | connectTimeout, s => s.network.connectTimeout
  | readTimeout, s => s.network.readTimeout
  | maxResponseSize, s => s.network.maxResponseSize
  | userAgent, s => s.network.userAgent
  | insecureEcosystems, s => s.network.insecureEcosystems
  | preferred, s => s.responders.preferred
  | listsAsFallback, s => s.responders.listsAsFallback
  | sendNonce, s => s.responders.sendNonce
  | bancoCentral, s => s.responders.fallback.bancoCentral
  | bancoCentralTest, s => s.responders.fallback.bancoCentralTest
  | securityData, s => s.responders.fallback.securityData
  | securityDataLegacy, s => s.responders.fallback.securityDataLegacy
  | verifySignature, s => s.lists.verifySignature
  | overridePoints, s => s.lists.overridePoints
  | directoryAttribute, s => s.lists.directoryAttribute

/-- Whether a field has a value, given what stands at its path. -/
def Holds (f : SettingField α) : Option SettingTree → α → Prop :=
  Stands f.kind.read? (f.get {})

end SettingField

/-- What a record reads at a name: the default if nothing stands there. -/
theorem field?_eq_some_iff {α : Type} {t : SettingTree} {name : String} {o : Option SettingTree}
    (hv : view? [name] t = some o) {position : Nat} {d a : α} {read? : SettingTree → Option α} :
    t.field? position name d read? = some a ↔ Stands read? d o a := by
  obtain ⟨es, rfl, hl⟩ := view?_cons_eq_some hv
  unfold field?
  rcases hl with ⟨hl, rfl⟩ | ⟨u, hl, hu⟩
  · simp [member?, hl, Stands, eq_comm]
  · obtain rfl := Option.some.inj hu
    simp [member?, hl, Stands]

theorem NetworkSettings.ofTree?_eq_some_iff {t : SettingTree} {n : NetworkSettings} :
    ofTree? t = some n ↔
      t.field? 0 "connect_timeout_ms" 10000 word? = some n.connectTimeout
      ∧ t.field? 1 "read_timeout_ms" 20000 word? = some n.readTimeout
      ∧ t.field? 2 "max_response_size" 10485760 word? = some n.maxResponseSize
      ∧ t.field? 3 "user_agent" "firmaec-crypto/0.1.0" text? = some n.userAgent
      ∧ t.field? 4 "insecure_tls_ecosystems" [] (list? ecosystem?) = some n.insecureEcosystems := by
  cases n
  simp only [ofTree?, Option.bind_eq_bind, Option.bind_eq_some_iff, Option.pure_def,
    Option.some.injEq, mk.injEq]
  grind

theorem FallbackResponders.ofTree?_eq_some_iff {t : SettingTree} {r : FallbackResponders} :
    ofTree? t = some r ↔
      t.field? 0 "banco_central" none (optional? text?) = some r.bancoCentral
      ∧ t.field? 1 "banco_central_test" none (optional? text?) = some r.bancoCentralTest
      ∧ t.field? 2 "security_data" none (optional? text?) = some r.securityData
      ∧ t.field? 3 "security_data_legacy" none (optional? text?) = some r.securityDataLegacy := by
  cases r
  simp only [ofTree?, Option.bind_eq_bind, Option.bind_eq_some_iff, Option.pure_def,
    Option.some.injEq, mk.injEq]
  grind

theorem ResponderSettings.ofTree?_eq_some_iff {t : SettingTree} {r : ResponderSettings} :
    ofTree? t = some r ↔
      t.field? 0 "prefer_ocsp" true flag? = some r.preferred
      ∧ t.field? 1 "crl_fallback" true flag? = some r.listsAsFallback
      ∧ t.field? 2 "send_nonce" true flag? = some r.sendNonce
      ∧ t.field? 3 "fallback_responders" {} FallbackResponders.ofTree? = some r.fallback := by
  cases r
  simp only [ofTree?, Option.bind_eq_bind, Option.bind_eq_some_iff, Option.pure_def,
    Option.some.injEq, mk.injEq]
  grind

theorem ListSettings.ofTree?_eq_some_iff {t : SettingTree} {l : ListSettings} :
    ofTree? t = some l ↔
      t.field? 0 "verify_signature" true flag? = some l.verifySignature
      ∧ t.field? 1 "override_points" none (optional? (list? text?)) = some l.overridePoints
      ∧ t.field? 2 "ldap_attribute" "certificateRevocationList;binary" text?
        = some l.directoryAttribute := by
  cases l
  simp only [ofTree?, Option.bind_eq_bind, Option.bind_eq_some_iff, Option.pure_def,
    Option.some.injEq, mk.injEq]
  grind

theorem Settings.ofTree?_eq_some_iff {t : SettingTree} {s : Settings} :
    ofTree? t = some s ↔
      t.field? 0 "network" {} NetworkSettings.ofTree? = some s.network
      ∧ t.field? 1 "ocsp" {} ResponderSettings.ofTree? = some s.responders
      ∧ t.field? 2 "crl" {} ListSettings.ofTree? = some s.lists := by
  cases s
  simp only [ofTree?, Option.bind_eq_bind, Option.bind_eq_some_iff, Option.pure_def,
    Option.some.injEq, mk.injEq]
  grind

/-- What stands at a path below a name, given what the record at that name is read as. -/
theorem stands_below {α β : Type} {t : SettingTree} {name : String} {path : List String}
    {o : Option SettingTree} {position : Nat} {d r : β} {sub? : SettingTree → Option β}
    {read? : SettingTree → Option α} (get : β → α) (h : t.field? position name d sub? = some r)
    (hv : view? (name :: path) t = some o)
    (hsub : ∀ u, sub? u = some r → view? path u = some o → Stands read? (get d) o (get r)) :
    Stands read? (get d) o (get r) := by
  obtain ⟨es, rfl, hl⟩ := view?_cons_eq_some hv
  rcases hl with ⟨hl, rfl⟩ | ⟨u, hl, hu⟩
  · obtain rfl : r = d := by simpa [field?, member?, hl, eq_comm] using h
    rfl
  · exact hsub u (by simpa [field?, member?, hl] using h) hu

/-- Settings that are read have at each field what stands at its path. -/
theorem SettingField.get_of_ofTree? {α : Type} (f : SettingField α) {t : SettingTree} {s : Settings}
    {o : Option SettingTree} (h : Settings.ofTree? t = some s) (hv : view? f.path t = some o) :
    f.Holds o (f.get s) := by
  obtain ⟨hn, hr, hl⟩ := Settings.ofTree?_eq_some_iff.1 h
  cases f with
  | connectTimeout =>
    refine stands_below NetworkSettings.connectTimeout hn hv fun u hu hv => ?_
    exact (field?_eq_some_iff hv).1 (NetworkSettings.ofTree?_eq_some_iff.1 hu).1
  | readTimeout =>
    refine stands_below NetworkSettings.readTimeout hn hv fun u hu hv => ?_
    exact (field?_eq_some_iff hv).1 (NetworkSettings.ofTree?_eq_some_iff.1 hu).2.1
  | maxResponseSize =>
    refine stands_below NetworkSettings.maxResponseSize hn hv fun u hu hv => ?_
    exact (field?_eq_some_iff hv).1 (NetworkSettings.ofTree?_eq_some_iff.1 hu).2.2.1
  | userAgent =>
    refine stands_below NetworkSettings.userAgent hn hv fun u hu hv => ?_
    exact (field?_eq_some_iff hv).1 (NetworkSettings.ofTree?_eq_some_iff.1 hu).2.2.2.1
  | insecureEcosystems =>
    refine stands_below NetworkSettings.insecureEcosystems hn hv fun u hu hv => ?_
    exact (field?_eq_some_iff hv).1 (NetworkSettings.ofTree?_eq_some_iff.1 hu).2.2.2.2
  | preferred =>
    refine stands_below ResponderSettings.preferred hr hv fun u hu hv => ?_
    exact (field?_eq_some_iff hv).1 (ResponderSettings.ofTree?_eq_some_iff.1 hu).1
  | listsAsFallback =>
    refine stands_below ResponderSettings.listsAsFallback hr hv fun u hu hv => ?_
    exact (field?_eq_some_iff hv).1 (ResponderSettings.ofTree?_eq_some_iff.1 hu).2.1
  | sendNonce =>
    refine stands_below ResponderSettings.sendNonce hr hv fun u hu hv => ?_
    exact (field?_eq_some_iff hv).1 (ResponderSettings.ofTree?_eq_some_iff.1 hu).2.2.1
  | bancoCentral =>
    refine stands_below (fun r => r.fallback.bancoCentral) hr hv fun u hu hv => ?_
    have hf := (ResponderSettings.ofTree?_eq_some_iff.1 hu).2.2.2
    refine stands_below FallbackResponders.bancoCentral hf hv fun u hu hv => ?_
    exact (field?_eq_some_iff hv).1 (FallbackResponders.ofTree?_eq_some_iff.1 hu).1
  | bancoCentralTest =>
    refine stands_below (fun r => r.fallback.bancoCentralTest) hr hv fun u hu hv => ?_
    have hf := (ResponderSettings.ofTree?_eq_some_iff.1 hu).2.2.2
    refine stands_below FallbackResponders.bancoCentralTest hf hv fun u hu hv => ?_
    exact (field?_eq_some_iff hv).1 (FallbackResponders.ofTree?_eq_some_iff.1 hu).2.1
  | securityData =>
    refine stands_below (fun r => r.fallback.securityData) hr hv fun u hu hv => ?_
    have hf := (ResponderSettings.ofTree?_eq_some_iff.1 hu).2.2.2
    refine stands_below FallbackResponders.securityData hf hv fun u hu hv => ?_
    exact (field?_eq_some_iff hv).1 (FallbackResponders.ofTree?_eq_some_iff.1 hu).2.2.1
  | securityDataLegacy =>
    refine stands_below (fun r => r.fallback.securityDataLegacy) hr hv fun u hu hv => ?_
    have hf := (ResponderSettings.ofTree?_eq_some_iff.1 hu).2.2.2
    refine stands_below FallbackResponders.securityDataLegacy hf hv fun u hu hv => ?_
    exact (field?_eq_some_iff hv).1 (FallbackResponders.ofTree?_eq_some_iff.1 hu).2.2.2
  | verifySignature =>
    refine stands_below ListSettings.verifySignature hl hv fun u hu hv => ?_
    exact (field?_eq_some_iff hv).1 (ListSettings.ofTree?_eq_some_iff.1 hu).1
  | overridePoints =>
    refine stands_below ListSettings.overridePoints hl hv fun u hu hv => ?_
    exact (field?_eq_some_iff hv).1 (ListSettings.ofTree?_eq_some_iff.1 hu).2.1
  | directoryAttribute =>
    refine stands_below ListSettings.directoryAttribute hl hv fun u hu hv => ?_
    exact (field?_eq_some_iff hv).1 (ListSettings.ofTree?_eq_some_iff.1 hu).2.2

/-- Whether there is telling what stands at a path, and a field's value holds there. -/
def SettingField.HoldsAt {α : Type} (f : SettingField α) (path : List String) (t : SettingTree)
    (a : α) : Prop :=
  ∃ o, view? path t = some o ∧ f.Holds o a

section HoldsAt

variable {α β : Type} {f : SettingField α} {t : SettingTree} {a : α} {name : String}
  {path : List String}

theorem field?_of_holdsAt (h : f.HoldsAt [name] t a) (position : Nat) :
    t.field? position name (f.get {}) f.kind.read? = some a := by
  obtain ⟨o, hv, ho⟩ := h
  exact (field?_eq_some_iff hv).2 ho

/-- A record is read if what stands at its name allows it, and it is the default if nothing does. -/
theorem field?_of_below (h : f.HoldsAt (name :: path) t a) {position : Nat} {d r : β}
    {sub? : SettingTree → Option β} (hd : view? [name] t = some none → r = d)
    (hs : ∀ u, view? [name] t = some (some u) → sub? u = some r) :
    t.field? position name d sub? = some r := by
  obtain ⟨o, hv, -⟩ := h
  obtain ⟨es, rfl, hl⟩ := view?_cons_eq_some hv
  rcases hl with ⟨hl, -⟩ | ⟨u, hl, -⟩
  · have hv : view? [name] (table es) = some none := by simp [view?, hl]
    exact (field?_eq_some_iff hv).2 (hd hv)
  · have hv : view? [name] (table es) = some (some u) := by simp [view?, hl]
    exact (field?_eq_some_iff hv).2 (hs u hv)

theorem SettingField.HoldsAt.eq_default (h : f.HoldsAt (name :: path) t a)
    (hn : view? [name] t = some none) : a = f.get {} := by
  obtain ⟨o, hv, ho⟩ := h
  obtain ⟨es, rfl, hl⟩ := view?_cons_eq_some hv
  rcases hl with ⟨hl, rfl⟩ | ⟨u, hl, -⟩
  · exact ho
  · simp [view?, hl] at hn

theorem SettingField.HoldsAt.below (h : f.HoldsAt (name :: path) t a) {u : SettingTree}
    (hu : view? [name] t = some (some u)) : f.HoldsAt path u a := by
  obtain ⟨o, hv, ho⟩ := h
  obtain ⟨es, rfl, hl⟩ := view?_cons_eq_some hv
  rcases hl with ⟨hl, -⟩ | ⟨w, hl, hw⟩
  · simp [view?, hl] at hu
  · obtain rfl : w = u := by simpa [view?, hl] using hu
    exact ⟨o, hw, ho⟩

theorem SettingField.HoldsAt.get_eq {s : Settings} (h : f.HoldsAt f.path t a)
    (hs : Settings.ofTree? t = some s) : f.get s = a := by
  obtain ⟨o, hv, ho⟩ := h
  exact (f.get_of_ofTree? hs hv).unique ho

/-- A document that spares a field leaves its value. -/
theorem SettingField.HoldsAt.overlay_of_spares {d : List (String × SettingTree)}
    (h : f.HoldsAt f.path t a) (hs : SparedBy f.path d) : f.HoldsAt f.path (t.overlay d) a := by
  obtain ⟨o, hv, ho⟩ := h
  obtain ⟨k, path, hp⟩ := f.path_eq_cons
  refine ⟨o, ?_, ho⟩
  rw [hp] at hs hv ⊢
  exact view?_overlay_of_spares hs hv

/-- A document that gives a field puts the value at its path. -/
theorem SettingField.view?_overlay_of_gives (f : SettingField α) {v : SettingTree} (hl : v.IsLeaf)
    (t : SettingTree) {d : List (String × SettingTree)} (hg : GivenBy v f.path d) :
    view? f.path (t.overlay d) = some (some v) := by
  obtain ⟨k, path, hp⟩ := f.path_eq_cons
  rw [hp] at hg ⊢
  exact SettingTree.view?_overlay_of_gives hl t hg

end HoldsAt

section OfHolds

variable {t : SettingTree} {s : Settings}
  (h : ∀ {α : Type} (f : SettingField α), f.HoldsAt f.path t (f.get s))

include h

theorem network_of_holds :
    t.field? 0 "network" {} NetworkSettings.ofTree? = some s.network := by
  refine field?_of_below (h .connectTimeout) (fun hn => ?_) fun u hu => ?_
  · have h0 := (h .connectTimeout).eq_default hn
    have h1 := (h .readTimeout).eq_default hn
    have h2 := (h .maxResponseSize).eq_default hn
    have h3 := (h .userAgent).eq_default hn
    have h4 := (h .insecureEcosystems).eq_default hn
    simp only [SettingField.get] at h0 h1 h2 h3 h4
    show NetworkSettings.mk _ _ _ _ _ = {}
    rw [h0, h1, h2, h3, h4]
  · exact NetworkSettings.ofTree?_eq_some_iff.2
      ⟨field?_of_holdsAt ((h .connectTimeout).below hu) 0,
        field?_of_holdsAt ((h .readTimeout).below hu) 1,
        field?_of_holdsAt ((h .maxResponseSize).below hu) 2,
        field?_of_holdsAt ((h .userAgent).below hu) 3,
        field?_of_holdsAt ((h .insecureEcosystems).below hu) 4⟩

theorem fallback_of_holds {u : SettingTree} (hu : view? ["ocsp"] t = some (some u)) :
    u.field? 3 "fallback_responders" {} FallbackResponders.ofTree?
      = some s.responders.fallback := by
  have h0 := (h .bancoCentral).below hu
  have h1 := (h .bancoCentralTest).below hu
  have h2 := (h .securityData).below hu
  have h3 := (h .securityDataLegacy).below hu
  refine field?_of_below h0 (fun hn => ?_) fun w hw => ?_
  · have h0 := h0.eq_default hn
    have h1 := h1.eq_default hn
    have h2 := h2.eq_default hn
    have h3 := h3.eq_default hn
    simp only [SettingField.get] at h0 h1 h2 h3
    show FallbackResponders.mk _ _ _ _ = {}
    rw [h0, h1, h2, h3]
  · exact FallbackResponders.ofTree?_eq_some_iff.2
      ⟨field?_of_holdsAt (h0.below hw) 0, field?_of_holdsAt (h1.below hw) 1,
        field?_of_holdsAt (h2.below hw) 2, field?_of_holdsAt (h3.below hw) 3⟩

theorem responders_of_holds :
    t.field? 1 "ocsp" {} ResponderSettings.ofTree? = some s.responders := by
  refine field?_of_below (h .preferred) (fun hn => ?_) fun u hu => ?_
  · have h0 := (h .preferred).eq_default hn
    have h1 := (h .listsAsFallback).eq_default hn
    have h2 := (h .sendNonce).eq_default hn
    have h3 := (h .bancoCentral).eq_default hn
    have h4 := (h .bancoCentralTest).eq_default hn
    have h5 := (h .securityData).eq_default hn
    have h6 := (h .securityDataLegacy).eq_default hn
    simp only [SettingField.get] at h0 h1 h2 h3 h4 h5 h6
    show ResponderSettings.mk _ _ _ (FallbackResponders.mk _ _ _ _) = {}
    rw [h0, h1, h2, h3, h4, h5, h6]
  · exact ResponderSettings.ofTree?_eq_some_iff.2
      ⟨field?_of_holdsAt ((h .preferred).below hu) 0,
        field?_of_holdsAt ((h .listsAsFallback).below hu) 1,
        field?_of_holdsAt ((h .sendNonce).below hu) 2, fallback_of_holds h hu⟩

theorem lists_of_holds : t.field? 2 "crl" {} ListSettings.ofTree? = some s.lists := by
  refine field?_of_below (h .verifySignature) (fun hn => ?_) fun u hu => ?_
  · have h0 := (h .verifySignature).eq_default hn
    have h1 := (h .overridePoints).eq_default hn
    have h2 := (h .directoryAttribute).eq_default hn
    simp only [SettingField.get] at h0 h1 h2
    show ListSettings.mk _ _ _ = {}
    rw [h0, h1, h2]
  · exact ListSettings.ofTree?_eq_some_iff.2
      ⟨field?_of_holdsAt ((h .verifySignature).below hu) 0,
        field?_of_holdsAt ((h .overridePoints).below hu) 1,
        field?_of_holdsAt ((h .directoryAttribute).below hu) 2⟩

/-- Settings are what is read from a tree if at each path their value holds. -/
theorem Settings.ofTree?_of_holds : Settings.ofTree? t = some s :=
  Settings.ofTree?_eq_some_iff.2 ⟨network_of_holds h, responders_of_holds h, lists_of_holds h⟩

end OfHolds

end SignerTrust
