import SignerTrust.Certificate.Basic
import SignerTrust.Certificate.GeneralName

/-!
# What a certificate says about itself

The extensions that name policies, alternative names, key purposes, revocation lists and status
responders.  An extension that occurs twice or cannot be read says nothing.
-/

namespace SignerTrust.Certificate

/-- The names of the extensions read here. -/
def policiesName : Oid := .ofArcs [2, 5, 29, 32]
def subjectAltName : Oid := .ofArcs [2, 5, 29, 17]
def distributionPointsName : Oid := .ofArcs [2, 5, 29, 31]
def accessName : Oid := .ofArcs [1, 3, 6, 1, 5, 5, 7, 1, 1]
def keyPurposesName : Oid := .ofArcs [2, 5, 29, 37]

/-- The access method of status responders, and the purpose of their keys. -/
def statusAccess : Oid := .ofArcs [1, 3, 6, 1, 5, 5, 7, 48, 1]
def statusSigning : Oid := .ofArcs [1, 3, 6, 1, 5, 5, 7, 3, 9]

/-- Reads one policy with its qualifiers. -/
def readPolicy? : Bytes → Option (Oid × Bytes) :=
  Der.inside? Der.Tag.sequence fun content => do
    let (policy, rest) ← Der.oid? content
    return (policy, rest)

/-- Reads the value of the policies extension. -/
def readPolicies? : Bytes → Option (List Oid × Bytes) :=
  Der.inside? Der.Tag.sequence (Der.many1? readPolicy?)

/-- The policies under which the certificate was issued; only version 3 has any. -/
def policies (c : Certificate) : List Oid :=
  if c.version ≠ version3 then []
  else ((c.extension? policiesName).bind fun e => (readPolicies? e.value).map (·.1)).getD []

/-- Whether the dotted text of some policy starts with `start`. -/
def hasPolicy (c : Certificate) (start : String) : Bool :=
  c.policies.any (·.dottedStartsWith start)

/-- Reads the value of the alternative names extension, every name of which must be readable. -/
def readAltNames? (value : Bytes) : Option (List GeneralName) := do
  let (e, _) ← Der.Element.readTag? Der.Tag.sequence value
  Der.all? GeneralName.read? e.content

/-- The alternative names of the subject. -/
def altNames (c : Certificate) : List GeneralName :=
  ((c.extension? subjectAltName).bind fun e => readAltNames? e.value).getD []

/-- Reads the full names of a distribution point's own name. -/
def readPointName? (content : Bytes) : Option (List GeneralName) := do
  let (e, _) ← Der.Element.readTag? 0 content
  let (names, _) ← Der.many1? GeneralName.read? e.content
  return names

/-- Reads one distribution point as its full names; other forms of name give none. -/
def readPoint? : Bytes → Option (List GeneralName × Bytes) :=
  Der.inside? Der.Tag.sequence fun content =>
    match Der.Element.readTag? 0 content with
    | some (e, rest) => some ((readPointName? e.content).getD [], rest)
    | none => some ([], content)

/-- Reads the value of the distribution points extension. -/
def readPoints? : Bytes → Option (List (List GeneralName) × Bytes) :=
  Der.inside? Der.Tag.sequence (Der.many1? readPoint?)

/-- The links among names. -/
def links (names : List GeneralName) : List String :=
  names.filterMap fun
    | .link text => some text
    | _ => none

/-- The links at which revocation lists are published. -/
def distributionPoints (c : Certificate) : List String :=
  ((c.extension? distributionPointsName).bind fun e =>
    (readPoints? e.value).map fun (points, _) => points.flatMap links).getD []

/-- Reads one access description: its method and its location. -/
def readAccess? : Bytes → Option ((Oid × GeneralName) × Bytes) :=
  Der.inside? Der.Tag.sequence fun content => do
    let (method, rest) ← Der.oid? content
    let (location, rest) ← GeneralName.read? rest
    return ((method, location), rest)

/-- Reads the value of the access extension, every description of which must be readable. -/
def readAccesses? (value : Bytes) : Option (List (Oid × GeneralName)) := do
  let (e, _) ← Der.Element.readTag? Der.Tag.sequence value
  Der.all? readAccess? e.content

/-- The links of the status responders. -/
def statusResponders (c : Certificate) : List String :=
  ((c.extension? accessName).bind fun e => (readAccesses? e.value).map fun accesses =>
    links ((accesses.filter fun a => a.1 = statusAccess).map (·.2))).getD []

/-- Reads the value of the key purposes extension. -/
def readPurposes? (value : Bytes) : Option (List Oid) := do
  let (e, _) ← Der.Element.readTag? Der.Tag.sequence value
  Der.all? Der.oid? e.content

/-- Whether the key may sign status responses. -/
def signsStatus (c : Certificate) : Bool :=
  match (c.extension? keyPurposesName).bind fun e => readPurposes? e.value with
  | some purposes => purposes.any fun p => p = statusSigning
  | none => false

end SignerTrust.Certificate
