/-!
# Faults of a path

Why a path was rejected, and the text of each reason.
-/

namespace SignerTrust.Path

/-- Why a path was rejected. -/
inductive Fault
  | unspecified
  | noIssuer
  | noLocalIssuer
  | signatureFailure
  | notYetValid
  | expired
  | unreadableNotBefore
  | unreadableNotAfter
  | selfSignedLeaf
  | selfSignedInChain
  | chainTooLong
  | pathLengthExceeded
  | unhandledCriticalExtension
  | proxyNotAllowed
  | permittedViolation
  | excludedViolation
  | subtreeDepth
  | unsupportedNameKind
  | unsupportedNameText
  | algorithmsDiffer
  | invalidAuthority
  | pathLengthWithoutAuthority
  | pathLengthWithoutSigning
  | signingWithoutAuthority
  | issuerEmpty
  | subjectEmpty
  | missingIssuerKeyId
  | missingSubjectKeyId
  | altNamesEmpty
  | altNamesNotCritical
  | basicNotCritical
  | issuerKeyIdCritical
  | subjectKeyIdCritical
  | authorityWithoutUsage
  | extensionsInOldVersion
  deriving DecidableEq, Repr

/-- The text of a fault. -/
def Fault.message : Fault → String
  | unspecified => "unspecified certificate verification error"
  | noIssuer => "unable to get issuer certificate"
  | noLocalIssuer => "unable to get local issuer certificate"
  | signatureFailure => "certificate signature failure"
  | notYetValid => "certificate is not yet valid or the system clock is incorrect"
  | expired => "certificate has expired"
  | unreadableNotBefore => "format error in certificate's notBefore field"
  | unreadableNotAfter => "format error in certificate's notAfter field"
  | selfSignedLeaf => "self-signed certificate"
  | selfSignedInChain => "self-signed certificate in certificate chain"
  | chainTooLong => "certificate chain too long"
  | pathLengthExceeded => "path length constraint exceeded"
  | unhandledCriticalExtension => "unhandled critical extension"
  | proxyNotAllowed => "proxy certificates not allowed, please set the appropriate flag"
  | permittedViolation => "permitted subtree violation"
  | excludedViolation => "excluded subtree violation"
  | subtreeDepth => "name constraints minimum and maximum not supported"
  | unsupportedNameKind => "unsupported name constraint type"
  | unsupportedNameText => "unsupported or invalid name syntax"
  | algorithmsDiffer => "cert info signature and signature algorithm mismatch"
  | invalidAuthority => "invalid CA certificate"
  | pathLengthWithoutAuthority => "Path length invalid for non-CA cert"
  | pathLengthWithoutSigning => "Path length given without key usage keyCertSign"
  | signingWithoutAuthority => "Key usage keyCertSign invalid for non-CA cert"
  | issuerEmpty => "Issuer name empty"
  | subjectEmpty => "Subject name empty"
  | missingIssuerKeyId => "Missing Authority Key Identifier"
  | missingSubjectKeyId => "Missing Subject Key Identifier"
  | altNamesEmpty => "Empty Subject Alternative Name extension"
  | altNamesNotCritical => "Subject empty and Subject Alt Name extension not critical"
  | basicNotCritical => "Basic Constraints of CA cert not marked critical"
  | issuerKeyIdCritical => "Authority Key Identifier marked critical"
  | subjectKeyIdCritical => "Subject Key Identifier marked critical"
  | authorityWithoutUsage => "CA cert does not include key usage extension"
  | extensionsInOldVersion => "Using cert extension requires at least X509v3"

end SignerTrust.Path
