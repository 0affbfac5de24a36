import SignerTrust.Path.Chain

/-!
# Conformance of a chain

What the certificates of a chain must say, each at its place.  The checks of a certificate stand in
order, and the first that fails names the fault.
-/

namespace SignerTrust.Path

/-- How a certificate counts as one of an authority. -/
inductive Standing
  | notAuthority
  | authority
  | assumed
  deriving DecidableEq, Repr

namespace Member

/-- The low bits of an old certificate type, which mark authorities. -/
def legacyAuthorities : Nat := 8

/-- The standing of a certificate by its usage and constraints, or else by older customs. -/
def standing (m : Member) : Standing :=
  let p := m.profile
  if p.usage.isSome && !p.allows Profile.certificateSigning then .notAuthority
  else match p.basic with
    | some limits => if limits.isAuthority then .authority else .notAuthority
    | none =>
      let isOldRoot := m.link.version = 0 && m.isSelfSigned
      let isLegacy := (p.legacyType.bind (·.head?)).any fun b => b.toNat % legacyAuthorities ≠ 0
      if isOldRoot || p.usage.isSome || isLegacy then .assumed else .notAuthority

/-- Whether an extension of a name is marked critical. -/
def isCritical (m : Member) (name : String) : Bool :=
  m.link.extensions.any fun e => e.name = name && e.critical

/-- The version number of certificates that may carry extensions. -/
def version3 : Int := 2

/-- The checks of every certificate: each is a condition that must not hold, and its fault. -/
def commonChecks (m : Member) (isLeaf isAlone : Bool) : List (Bool × Fault) :=
  let isStanding := if isLeaf then m.standing ≠ .assumed else m.standing = .authority
  [(m.link.extensions.any fun e => e.critical && !ExtensionId.understood.contains e.name,
      .unhandledCriticalExtension),
    (m.profile.isProxy, .proxyNotAllowed),
    (!isStanding, .invalidAuthority),
    (!isAlone && m.link.keyKind?.isNone, .unspecified)]

/-- The checks of a certificate that does not stand alone. -/
def chainChecks (m : Member) (isLast : Bool) : List (Bool × Fault) :=
  let p := m.profile
  let isAuthority := p.isAuthority
  let signs := p.allows Profile.certificateSigning
  let hasSubject := !m.link.subject.isEmpty
  let isVersion3 := decide (version3 ≤ m.link.version)
  [(p.pathLength.isSome && !isAuthority, .pathLengthWithoutAuthority),
    (p.pathLength.isSome && !signs, .pathLengthWithoutSigning),
    (isAuthority && !m.isCritical ExtensionId.basic, .basicNotCritical),
    (isAuthority && p.usage.isNone, .authorityWithoutUsage),
    (!isAuthority && signs, .signingWithoutAuthority),
    (m.link.issuer.isEmpty, .issuerEmpty),
    ((isAuthority || p.allows Profile.listSigning || p.altNames.isNone) && !hasSubject,
      .subjectEmpty),
    (!hasSubject && p.altNames.isSome && !m.isCritical ExtensionId.altNames,
      .altNamesNotCritical),
    (p.altNames.any List.isEmpty, .altNamesEmpty),
    (!m.link.algorithm.agrees m.link.innerAlgorithm, .algorithmsDiffer),
    (m.isCritical ExtensionId.issuerHint, .issuerKeyIdCritical),
    (m.isCritical ExtensionId.subjectKeyId, .subjectKeyIdCritical),
    (isVersion3 && !isLast && (p.issuerHint.bind (·.keyId)).isNone, .missingIssuerKeyId),
    (isVersion3 && isAuthority && p.subjectKeyId.isNone, .missingSubjectKeyId),
    (!isVersion3 && !m.link.extensions.isEmpty, .extensionsInOldVersion)]

/-- The first fault of a certificate at a place of a chain of `length` certificates; `below` counts
the authorities below it that did not issue themselves. -/
def fault? (m : Member) (place length below : Nat) : Option Fault :=
  let isAlone := decide (length ≤ 1)
  let inner := if isAlone then [] else m.chainChecks (place + 1 = length)
  let tooDeep := decide (1 < place) && m.profile.pathLength.any fun n => decide (n < below)
  let checks := m.commonChecks (place = 0) isAlone ++ inner ++ [(tooDeep, .pathLengthExceeded)]
  (checks.find? fun (failed, _) => failed).map fun (_, fault) => fault

end Member

namespace Chain

/-- Checks the certificates of a chain from the leaf up. -/
def checkConformance (chain : List Member) : Except Fault Unit :=
  go 0 0 chain
where
  go : Nat → Nat → List Member → Except Fault Unit
    | _, _, [] => .ok ()
    | place, below, m :: rest =>
      match m.fault? place chain.length below with
      | some fault => .error fault
      | none => go (place + 1) (if place = 0 || m.isSelfIssued then below else below + 1) rest

end Chain

end SignerTrust.Path
