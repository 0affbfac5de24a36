import SignerTrust.Path.Fault
import SignerTrust.Path.Profile

/-!
# Chains

A chain starts at a certificate and goes from issuer to issuer until one is trusted.  Issuers are
looked for among the trusted certificates first, then among those that are merely given, and once a
trusted one has been taken only among the trusted.  A chain is complete when its last certificate is
trusted and issued itself.
-/

namespace SignerTrust.Path

namespace Member

/-- Whether subject and issuer are the same. -/
def isSelfIssued (m : Member) : Bool :=
  m.link.subject.same m.link.issuer

/-- Whether a pointer to an issuer fits a certificate; of several directory names only the first
counts. -/
def fitsHint (issuer : Member) : Option IssuerHint → Bool
  | none => true
  | some hint =>
    let keyFits := match hint.keyId, issuer.profile.subjectKeyId with
      | some a, some b => a = b
      | _, _ => true
    let directory := (hint.names.getD []).findSome? fun
      | .directory n => some n
      | _ => none
    keyFits && hint.serial.all (· = issuer.link.serial)
      && directory.all fun n => n.same issuer.link.issuer

/-- Whether names, pointer and kind of key agree with `issuer` having issued `subject`. -/
def mayIssue (issuer subject : Member) : Bool :=
  issuer.link.subject.same subject.link.issuer && issuer.fitsHint subject.profile.issuerHint
    && subject.link.fitsKey issuer.link.keyKind?

/-- Whether a certificate may have issued itself. -/
def isSelfSigned (m : Member) : Bool :=
  m.mayIssue m

end Member

/-- The instants of the years zero to 9999, outside which no time can be compared. -/
def firstInstant : Int := -62167219200
def lastInstant : Int := 253402300799

/-- The order of a written time and an instant, if both can be compared: whether the time has been
reached. -/
def Moment.isReached? (m : Moment) (instant : Int) : Option Bool := do
  let t ← m.epoch?
  if firstInstant ≤ instant ∧ instant ≤ lastInstant then return decide (t ≤ instant) else none

/-- Checks that an instant lies in the validity period: it starts at its first instant and ends
before its last. -/
def Link.checkPeriod (l : Link) (instant : Int) : Except Fault Unit :=
  match l.notBefore.isReached? instant with
  | none => .error .unreadableNotBefore
  | some false => .error .notYetValid
  | some true =>
    match l.notAfter.isReached? instant with
    | none => .error .unreadableNotAfter
    | some true => .error .expired
    | some false => .ok ()

/-- Whether an instant lies in the validity period. -/
def Link.isCurrent (l : Link) (instant : Int) : Bool :=
  (l.checkPeriod instant).toBool

namespace Chain

/-- How many certificates a chain may have, the trusted one apart. -/
def maxLength : Nat := 101

/-- Whether the validity of `a` ends after that of `b`. -/
def endsLater (a b : Member) : Bool :=
  match a.link.notAfter.epoch?, b.link.notAfter.epoch? with
  | some s, some t => t < s
  | _, _ => false

/-- The first candidate that is valid at an instant, else one whose validity ends last. -/
def best? (instant : Int) (candidates : List Member) : Option Member :=
  match candidates.find? fun m => m.link.isCurrent instant with
  | some m => some m
  | none =>
    match candidates with
    | [] => none
    | m :: ms => some (ms.foldl (fun best m => if endsLater m best then m else best) m)

/-- How the search for a chain ends. -/
inductive Search
  | complete (chain : List Member)
  | incomplete (chain : List Member) (given : Nat)
  | unusableKey
  deriving DecidableEq, Repr

/-- The trusted issuer of the last certificate of a chain.  A certificate that issued itself has to
be trusted itself: another one of its name is no issuer. -/
def trustedIssuer? (trusted : List Member) (instant : Int) (start : List Member) (last : Member) :
    Option Member :=
  if maxLength ≤ start.length then none
  else (best? instant (trusted.filter fun m => m.mayIssue last)).filter fun issuer =>
    !last.isSelfSigned || last.link.same issuer.link

/-- The issuer of the last certificate of a chain among those that are merely given; it may not
stand in the chain already. -/
def givenIssuer? (pool : List Member) (instant : Int) (start : List Member) (last : Member) :
    Option Member :=
  if last.isSelfSigned || maxLength ≤ start.length then none
  else best? instant (pool.filter fun m => m.mayIssue last
    && ((last.isSelfIssued && start.isEmpty)
      || !(start ++ [last]).any fun c => c.link.same m.link))

/-- Goes on with a chain, leaf first, whose last certificate is `last` and whose first `given`
certificates were not taken from the trusted ones.  The certificates of `pool` are merely given;
there is no pool once it has failed or a trusted certificate has been taken. -/
def extend (trusted : List Member) (instant : Int) : (fuel : Nat) → (start : List Member) →
    (last : Member) → (given : Nat) → (pool : Option (List Member)) → Search
  | 0, start, last, given, _ => .incomplete (start ++ [last]) given
  | fuel + 1, start, last, given, pool =>
    match trustedIssuer? trusted instant start last with
    | some issuer =>
      if last.link.keyKind?.isNone then .unusableKey
      else if last.isSelfSigned then .complete (start ++ [issuer])
      else if issuer.isSelfSigned then .complete (start ++ [last, issuer])
      else extend trusted instant fuel (start ++ [last]) issuer given none
    | none =>
      match pool with
      | none => .incomplete (start ++ [last]) given
      | some members =>
        match givenIssuer? members instant start last with
        | none => extend trusted instant fuel start last given none
        | some issuer =>
          let left := members.filter fun m => !m.link.same issuer.link
          extend trusted instant fuel (start ++ [last]) issuer (given + 1) (some left)

/-- Searches for a chain from a certificate. -/
def search (trusted pool : List Member) (instant : Int) (leaf : Member) : Search :=
  extend trusted instant (maxLength + pool.length + 2) [] leaf 1 (some pool)

/-- Why a chain that could not be completed is rejected. -/
def fault (chain : List Member) (given : Nat) : Fault :=
  if maxLength < chain.length then .chainTooLong
  else if chain.getLast?.any Member.isSelfSigned then
    if chain.length = 1 then .selfSignedLeaf else .selfSignedInChain
  else if given < chain.length then .noIssuer
  else .noLocalIssuer

end Chain

end SignerTrust.Path
