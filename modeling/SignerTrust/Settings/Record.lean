import SignerTrust.Settings.Basic
import SignerTrust.Settings.Tree

/-!
# Settings from a tree and back

A record is read from a table, where unknown names are passed over and missing ones stand for their
defaults, or from a list of its values in order.  The tree of given settings has no entry for an
empty list, and there is none for a number past `2 ^ 63 - 1`.
-/

namespace SignerTrust

namespace SettingTree

/-- The value of a record at a name or a position.  `none` says that the tree is no record, and
`some none` that the value is missing. -/
def member? (t : SettingTree) (position : Nat) (name : String) : Option (Option SettingTree) :=
  match t with
  | table es => some (es.lookup name)
  | list items => some items[position]?
  | _ => none

/-- Reads a value of a record, which has a default. -/
def field? {α : Type} (t : SettingTree) (position : Nat) (name : String) (default : α)
    (read? : SettingTree → Option α) : Option α :=
  match t.member? position name with
  | none => none
  | some none => some default
  | some (some v) => read? v

/-- Reads the name of an ecosystem: a text in any case, or a table with one entry of that name. -/
def ecosystem? : SettingTree → Option Ecosystem
  | text s => ofLower s
  | table [(name, _)] => ofLower name
  | _ => none
where
  ofLower (s : String) : Option Ecosystem :=
    Ecosystem.all.find? fun e => e.name = Lower.text s

end SettingTree

open SettingTree

/-- Reads how servers are reached. -/
def NetworkSettings.ofTree? (t : SettingTree) : Option NetworkSettings := do
  let d : NetworkSettings := {}
  let connectTimeout ← t.field? 0 "connect_timeout_ms" d.connectTimeout word?
  let readTimeout ← t.field? 1 "read_timeout_ms" d.readTimeout word?
  let maxResponseSize ← t.field? 2 "max_response_size" d.maxResponseSize word?
  let userAgent ← t.field? 3 "user_agent" d.userAgent text?
  let insecureEcosystems ←
    t.field? 4 "insecure_tls_ecosystems" d.insecureEcosystems (list? ecosystem?)
  return { connectTimeout, readTimeout, maxResponseSize, userAgent, insecureEcosystems }

/-- Reads the responders for certificates that name none. -/
def FallbackResponders.ofTree? (t : SettingTree) : Option FallbackResponders := do
  let bancoCentral ← t.field? 0 "banco_central" none (optional? text?)
  let bancoCentralTest ← t.field? 1 "banco_central_test" none (optional? text?)
  let securityData ← t.field? 2 "security_data" none (optional? text?)
  let securityDataLegacy ← t.field? 3 "security_data_legacy" none (optional? text?)
  return { bancoCentral, bancoCentralTest, securityData, securityDataLegacy }

/-- Reads how status responders are asked. -/
def ResponderSettings.ofTree? (t : SettingTree) : Option ResponderSettings := do
  let d : ResponderSettings := {}
  let preferred ← t.field? 0 "prefer_ocsp" d.preferred flag?
  let listsAsFallback ← t.field? 1 "crl_fallback" d.listsAsFallback flag?
  let sendNonce ← t.field? 2 "send_nonce" d.sendNonce flag?
  let fallback ← t.field? 3 "fallback_responders" d.fallback FallbackResponders.ofTree?
  return { preferred, listsAsFallback, sendNonce, fallback }

/-- Reads how revocation lists are checked. -/
def ListSettings.ofTree? (t : SettingTree) : Option ListSettings := do
  let d : ListSettings := {}
  let verifySignature ← t.field? 0 "verify_signature" d.verifySignature flag?
  let overridePoints ← t.field? 1 "override_points" d.overridePoints (optional? (list? text?))
  let directoryAttribute ← t.field? 2 "ldap_attribute" d.directoryAttribute text?
  return { verifySignature, overridePoints, directoryAttribute }

/-- Reads settings. -/
def Settings.ofTree? (t : SettingTree) : Option Settings := do
  let network ← t.field? 0 "network" {} NetworkSettings.ofTree?
  let responders ← t.field? 1 "ocsp" {} ResponderSettings.ofTree?
  let lists ← t.field? 2 "crl" {} ListSettings.ofTree?
  return { network, responders, lists }

namespace SettingTree

/-- The tree of a word, which must be below `2 ^ 63`. -/
def ofWord? (w : UInt64) : Option SettingTree :=
  if w.toNat < 0x8000000000000000 then some (integer w.toNat) else none

/-- The tree of a text that may be absent. -/
def ofOptional (t : Option String) : SettingTree :=
  (t.map text).getD absent

/-- The entry for a list of texts: none if it is empty. -/
def listEntry (name : String) (items : List String) : List (String × SettingTree) :=
  if items.isEmpty then [] else [(name, list (items.map text))]

end SettingTree

/-- The entries of how servers are reached. -/
def NetworkSettings.entries? (n : NetworkSettings) : Option (List (String × SettingTree)) := do
  return [("connect_timeout_ms", ← ofWord? n.connectTimeout),
      ("read_timeout_ms", ← ofWord? n.readTimeout),
      ("max_response_size", ← ofWord? n.maxResponseSize), ("user_agent", text n.userAgent)]
    ++ listEntry "insecure_tls_ecosystems" (n.insecureEcosystems.map Ecosystem.name)

/-- The entries of the responders for certificates that name none. -/
def FallbackResponders.entries (f : FallbackResponders) : List (String × SettingTree) :=
  [("banco_central", ofOptional f.bancoCentral),
    ("banco_central_test", ofOptional f.bancoCentralTest),
    ("security_data", ofOptional f.securityData),
    ("security_data_legacy", ofOptional f.securityDataLegacy)]

/-- The entries of how status responders are asked. -/
def ResponderSettings.entries (r : ResponderSettings) : List (String × SettingTree) :=
  [("prefer_ocsp", flag r.preferred), ("crl_fallback", flag r.listsAsFallback),
    ("send_nonce", flag r.sendNonce), ("fallback_responders", table r.fallback.entries)]

/-- The entries of how revocation lists are checked. -/
def ListSettings.entries (l : ListSettings) : List (String × SettingTree) :=
  [("verify_signature", flag l.verifySignature)]
    ++ (match l.overridePoints with
      | none => [("override_points", absent)]
      | some points => listEntry "override_points" points)
    ++ [("ldap_attribute", text l.directoryAttribute)]

/-- The entries of settings. -/
def Settings.entries? (s : Settings) : Option (List (String × SettingTree)) := do
  return [("network", table (← s.network.entries?)), ("ocsp", table s.responders.entries),
    ("crl", table s.lists.entries)]

end SignerTrust
