import SignerTrust.Path.Chain

/-!
# Limits on names

An authority may limit the names of the certificates below it: a name of a kind that has permitted
subtrees must lie in one of them, and no name may lie in an excluded one.  A leaf without host names
is also looked up by the common names that look like one.
-/

namespace SignerTrust.Path

/-- Why a name is not in a subtree: it lies elsewhere, or it cannot be told. -/
inductive Mismatch
  | outside
  | unsupportedText
  | unsupportedKind
  deriving DecidableEq, Repr

/-- What follows the last byte `b`, and what precedes it, if it occurs. -/
def splitLast? (b : UInt8) (text : Bytes) : Option (Bytes × Bytes) :=
  let after := (text.reverse.takeWhile (· ≠ b)).reverse
  if after.length < text.length then
    some (text.take (text.length - after.length - 1), after)
  else none

/-- Whether two texts are the same but for the case of letters. -/
def sameFolded (a b : Bytes) : Bool :=
  a.map Bytes.lowerByte = b.map Bytes.lowerByte

/-- Whether a text ends with another, but for the case of letters. -/
def endsWithFolded (text ending : Bytes) : Bool :=
  ending.length ≤ text.length && sameFolded (text.drop (text.length - ending.length)) ending

/-- The bytes of a point, an at sign, a colon and a slash. -/
def point : UInt8 := 0x2e
def atSign : UInt8 := 0x40
def colon : UInt8 := 0x3a
def slash : UInt8 := 0x2f

/-- Success if a name lies in a subtree. -/
def inside (b : Bool) : Except Mismatch Unit :=
  if b then .ok () else .error .outside

/-- Whether a host lies in a subtree: labels may be added on the left. -/
def matchHost (host base : Bytes) : Except Mismatch Unit :=
  let added := host.take (host.length - base.length)
  inside (base.isEmpty || (endsWithFolded host base
    && (added.isEmpty || base.head? = some point || added.getLast? = some point)))

/-- Whether a mail address lies in a subtree: a whole address, a host, or hosts under a point. -/
def matchMail (mail base : Bytes) : Except Mismatch Unit :=
  match splitLast? atSign mail with
  | none => .error .unsupportedText
  | some (user, host) =>
    match splitLast? atSign base with
    | none =>
      if base.head? = some point then
        inside (base.length < mail.length && endsWithFolded mail base)
      else inside (sameFolded host base)
    | some (baseUser, baseHost) =>
      if !baseUser.isEmpty && baseUser.length ≠ user.length then .error .outside
      else if !baseUser.isEmpty && (baseUser.contains 0 || user.contains 0) then
        .error .unsupportedText
      else inside ((baseUser.isEmpty || baseUser = user) && sameFolded host baseHost)

/-- The host of a link: what follows the two slashes, up to a port or a path. -/
def linkHost? (link : Bytes) : Option Bytes :=
  match link.dropWhile (· ≠ colon) with
  | _ :: a :: b :: rest =>
    if a = slash ∧ b = slash then
      let toPort := rest.takeWhile (· ≠ colon)
      let host := if toPort.length < rest.length then toPort else rest.takeWhile (· ≠ slash)
      if host.isEmpty then none else some host
    else none
  | _ => none

/-- Whether a link lies in a subtree: its host is the base, or ends with a base under a point. -/
def matchLink (link base : Bytes) : Except Mismatch Unit :=
  match linkHost? link with
  | none => .error .unsupportedText
  | some host =>
    if base.head? = some point then inside (base.length < host.length && endsWithFolded host base)
    else inside (sameFolded host base)

/-- Whether an address agrees with a base under its mask. -/
def matchAddress (address base : Bytes) : Except Mismatch Unit :=
  if (address.length ≠ 4 ∧ address.length ≠ 16) ∨ (base.length ≠ 8 ∧ base.length ≠ 32) then
    .error .unsupportedText
  else if base.length ≠ 2 * address.length then .error .outside
  else
    let masked := List.zipWith (· &&& ·) (base.drop address.length)
    inside (masked address = masked (base.take address.length))

/-- Whether a name lies in the subtree of a base of the same kind. -/
def AltName.matchBase : AltName → AltName → Except Mismatch Unit
  | .directory name, .directory base => inside (base.form.isPrefixOf name.form)
  | .host text, .host base => matchHost text base
  | .mail text, .mail base => matchMail text base
  | .link text, .link base => matchLink text base
  | .address bytes, .address base => matchAddress bytes base
  | _, _ => .error .unsupportedKind

/-- Whether a subtree has to do with a name. -/
def Subtree.concerns (t : Subtree) (name : AltName) : Bool :=
  t.base.kind = name.kind && match name, t.base with
    | .other a, .other b => a = b
    | _, _ => true

/-- The fault of a mismatch that cannot be told. -/
def Mismatch.fault? : Mismatch → Option Fault
  | outside => none
  | unsupportedText => some .unsupportedNameText
  | unsupportedKind => some .unsupportedNameKind

namespace NameLimits

/-- Looks for the name in the permitted subtrees; hands back whether one of them contains it.
Once it has been found the others only have to be whole. -/
def findPermitted (name : AltName) : (found : Bool) → List Subtree → Except Fault Bool
  | found, [] => .ok found
  | found, t :: rest =>
    if !t.isWhole then .error .subtreeDepth
    else if found then findPermitted name true rest
    else match name.matchBase t.base with
      | .ok () => findPermitted name true rest
      | .error e =>
        match e.fault? with
        | some fault => .error fault
        | none => findPermitted name false rest

/-- Checks that the name lies in no excluded subtree. -/
def checkExcluded (name : AltName) : List Subtree → Except Fault Unit
  | [] => .ok ()
  | t :: rest =>
    if !t.isWhole then .error .subtreeDepth
    else match name.matchBase t.base with
      | .ok () => .error .excludedViolation
      | .error e =>
        match e.fault? with
        | some fault => .error fault
        | none => checkExcluded name rest

/-- Checks a name against the limits. -/
def checkName (limits : NameLimits) (name : AltName) : Except Fault Unit := do
  let permitted := limits.permitted.filter (·.concerns name)
  let found ← findPermitted name false permitted
  if !found && !permitted.isEmpty then throw .permittedViolation
  checkExcluded name (limits.excluded.filter (·.concerns name))

/-- Checks names in turn. -/
def checkNames (limits : NameLimits) : List AltName → Except Fault Unit
  | [] => .ok ()
  | name :: rest => do
    limits.checkName name
    checkNames limits rest

/-- The attribute kinds of mail addresses and of common names. -/
def mailKind : String := "1.2.840.113549.1.9.1"
def commonNameKind : String := "2.5.4.3"

/-- Checks the mail addresses of a subject, which have one type only. -/
def checkMail (limits : NameLimits) : List Der.Element → Except Fault Unit
  | [] => .ok ()
  | e :: rest =>
    if e.tag ≠ Der.Tag.ia5String then .error .unsupportedNameText
    else do
      limits.checkName (.mail e.content)
      checkMail limits rest

/-- Checks the subject of a certificate, its mail addresses and its alternative names. -/
def checkMember (limits : NameLimits) (m : Member) : Except Fault Unit := do
  let subject := m.link.subject
  if !subject.isEmpty then
    limits.checkName (.directory subject)
    limits.checkMail (subject.valuesOf mailKind)
  limits.checkNames (m.profile.altNames.getD [])

/-- Whether a byte may stand anywhere in a host name. -/
def isHostByte (b : UInt8) : Bool :=
  (0x61 ≤ b && b ≤ 0x7a) || (0x41 ≤ b && b ≤ 0x5a) || (0x30 ≤ b && b ≤ 0x39) || b = 0x5f

/-- The byte of a hyphen. -/
def hyphen : UInt8 := 0x2d

/-- Whether a text looks like a host name of two labels or more: hyphens and points stand within it,
and points next to neither. -/
def looksLikeHost (text : Bytes) : Bool :=
  go none false text
where
  go : Option UInt8 → Bool → Bytes → Bool
    | _, pointed, [] => pointed
    | previous, pointed, b :: rest =>
      if isHostByte b then go (some b) pointed rest
      else match previous, rest with
        | some p, next :: _ =>
          if b = hyphen then go (some b) pointed rest
          else if b = point && next ≠ point && p ≠ hyphen && next ≠ hyphen then
            go (some b) true rest
          else false
        | _, _ => false

/-- The host name that a common name is, if it looks like one.  Zeros at its end are dropped; the
outer answer is missing if the value is no text. -/
def hostOf? (e : Der.Element) : Option (Except Fault (Option Bytes)) :=
  (NameEntry.utf8? e.tag e.content).map fun text =>
    let text := (text.reverse.dropWhile (· = 0)).reverse
    if text.contains 0 then .error .unsupportedNameText
    else .ok (if looksLikeHost text then some text else none)

/-- Checks the common names that look like hosts; there is no answer if one is no text. -/
def checkCommonNames? (limits : NameLimits) : List Der.Element → Option (Except Fault Unit)
  | [] => some (.ok ())
  | e :: rest =>
    match hostOf? e with
    | none => none
    | some (.error fault) => some (.error fault)
    | some (.ok none) => checkCommonNames? limits rest
    | some (.ok (some host)) =>
      match limits.checkName (.host host) with
      | .error fault => some (.error fault)
      | .ok () => checkCommonNames? limits rest

/-- Checks the common names of a leaf that has no host among its alternative names. -/
def checkLeaf? (limits : NameLimits) (m : Member) : Option (Except Fault Unit) :=
  let hasHost := (m.profile.altNames.getD []).any fun n => n.kind = 2
  if hasHost then some (.ok ())
  else checkCommonNames? limits (m.link.subject.valuesOf commonNameKind)

end NameLimits

namespace Chain

/-- Checks a certificate against the limits of the authorities above it, the topmost first. -/
def checkAgainst? (m : Member) (isLeaf : Bool) : List NameLimits → Option (Except Fault Unit)
  | [] => some (.ok ())
  | limits :: rest =>
    match limits.checkMember m with
    | .error fault => some (.error fault)
    | .ok () =>
      match if isLeaf then limits.checkLeaf? m else some (.ok ()) with
      | some (.ok ()) => checkAgainst? m isLeaf rest
      | answer => answer

/-- Checks the names of a chain from the top down.  Certificates that issued themselves are passed
over unless they are the leaf.  There is no answer if a name cannot be looked at. -/
def checkNames? (chain : List Member) : Option (Except Fault Unit) :=
  go [] chain.reverse
where
  go : List NameLimits → List Member → Option (Except Fault Unit)
    | _, [] => some (.ok ())
    | above, m :: below =>
      let isLeaf := below.isEmpty
      let answer :=
        if !isLeaf && m.isSelfIssued then some (.ok ()) else checkAgainst? m isLeaf above
      match answer with
      | some (.ok ()) => go (above ++ m.profile.nameLimits.toList) below
      | answer => answer

end Chain

end SignerTrust.Path
