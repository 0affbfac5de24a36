import SignerTrust.Settings.Document
import SignerTrust.Toml.Writer

/-!
# Writing settings

Settings are written as TOML, one table after another with a blank line between them.  An absent
value is left out.  A number that is no TOML integer cannot be written.
-/

namespace SignerTrust

open Toml

/-- Writes an entry with a word, which must be below `2 ^ 63`. -/
def writeWord? (name : String) (w : UInt64) : Option String :=
  if w.toNat < 0x8000000000000000 then some (writeEntry name (toString w.toNat)) else none

/-- Writes an entry with a text that may be absent. -/
def writeOptional (name : String) (t : Option String) : String :=
  match t with
  | some t => writeEntry name (writeString t)
  | none => ""

/-- Writes how servers are reached. -/
def NetworkSettings.write? (n : NetworkSettings) : Option String := do
  return writeHeader "network"
    ++ (← writeWord? "connect_timeout_ms" n.connectTimeout)
    ++ (← writeWord? "read_timeout_ms" n.readTimeout)
    ++ (← writeWord? "max_response_size" n.maxResponseSize)
    ++ writeEntry "user_agent" (writeString n.userAgent)
    ++ writeEntry "insecure_tls_ecosystems"
      (writeStrings (n.insecureEcosystems.map Ecosystem.name))

/-- Writes the responders for certificates that name none. -/
def FallbackResponders.write (f : FallbackResponders) : String :=
  writeHeader "ocsp.fallback_responders"
    ++ writeOptional "banco_central" f.bancoCentral
    ++ writeOptional "banco_central_test" f.bancoCentralTest
    ++ writeOptional "security_data" f.securityData
    ++ writeOptional "security_data_legacy" f.securityDataLegacy

/-- Writes how status responders are asked. -/
def ResponderSettings.write (r : ResponderSettings) : String :=
  writeHeader "ocsp"
    ++ writeEntry "prefer_ocsp" (writeFlag r.preferred)
    ++ writeEntry "crl_fallback" (writeFlag r.listsAsFallback)
    ++ writeEntry "send_nonce" (writeFlag r.sendNonce)
    ++ "\n" ++ r.fallback.write

/-- Writes how revocation lists are checked. -/
def ListSettings.write (l : ListSettings) : String :=
  writeHeader "crl"
    ++ writeEntry "verify_signature" (writeFlag l.verifySignature)
    ++ (match l.overridePoints with
      | none => ""
      | some points => writeEntry "override_points" (writeStrings points))
    ++ writeEntry "ldap_attribute" (writeString l.directoryAttribute)

/-- Writes settings. -/
def Settings.toToml (s : Settings) : Except SettingsError String :=
  match s.network.write? with
  | none => .error .unwritable
  | some network => .ok (network ++ "\n" ++ s.responders.write ++ "\n" ++ s.lists.write)

end SignerTrust
