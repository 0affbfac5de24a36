import SignerTrust.Ecosystem

/-!
# Settings

How servers are reached, how status responders are asked, and how revocation lists are checked.
Numbers are words of 64 bits; times are in milliseconds and sizes in bytes.
-/

namespace SignerTrust

/-- How servers are reached.  The revocation servers of the listed ecosystems are reached without
checking their own certificates. -/
structure NetworkSettings where
  connectTimeout : UInt64 := 10000
  readTimeout : UInt64 := 20000
  maxResponseSize : UInt64 := 10485760
  userAgent : String := "firmaec-crypto/0.1.0"
  insecureEcosystems : List Ecosystem := []
  deriving DecidableEq, Repr

/-- Responders for certificates that name none. -/
structure FallbackResponders where
  bancoCentral : Option String := none
  bancoCentralTest : Option String := none
  securityData : Option String := none
  securityDataLegacy : Option String := none
  deriving DecidableEq, Repr

/-- How status responders are asked. -/
structure ResponderSettings where
  preferred : Bool := true
  listsAsFallback : Bool := true
  sendNonce : Bool := true
  fallback : FallbackResponders := {}
  deriving DecidableEq, Repr

/-- How revocation lists are checked. -/
structure ListSettings where
  verifySignature : Bool := true
  overridePoints : Option (List String) := none
  directoryAttribute : String := "certificateRevocationList;binary"
  deriving DecidableEq, Repr

/-- All settings. -/
structure Settings where
  network : NetworkSettings := {}
  responders : ResponderSettings := {}
  lists : ListSettings := {}
  deriving DecidableEq, Repr

/-- The responder to ask about an ecosystem's certificates that name none. -/
def FallbackResponders.get (f : FallbackResponders) : Ecosystem → Option String
  | .bancoCentral => f.bancoCentral
  | .bancoCentralTest => f.bancoCentralTest
  | .securityData => f.securityData
  | .securityDataLegacy => f.securityDataLegacy
  | .unknown => none

/-- The whole seconds of the time to connect. -/
def NetworkSettings.connectSeconds (n : NetworkSettings) : Nat :=
  n.connectTimeout.toNat / 1000

/-- The whole seconds of the time to read. -/
def NetworkSettings.readSeconds (n : NetworkSettings) : Nat :=
  n.readTimeout.toNat / 1000

end SignerTrust
