import SignerTrust.TrustAnchor.Accredited
import SignerTrust.TrustAnchor.Armour

/-!
# Registries of trust anchors

A registry holds exactly one root and one issuing authority for each known ecosystem.
-/

namespace SignerTrust

/-- A table of trust anchors. -/
structure Registry where
  anchors : List TrustAnchor
  deriving DecidableEq, Repr

namespace Registry

/-- The anchors of an ecosystem and a role. -/
def matching (anchors : List TrustAnchor) (e : Ecosystem) (r : AnchorRole) : List TrustAnchor :=
  anchors.filter fun a => a.ecosystem = e ∧ a.role = r

/-- The places that a registry has to fill, in the order in which they are looked at. -/
def places : List (Ecosystem × AnchorRole) :=
  Ecosystem.known.flatMap fun e => [(e, .root), (e, .sub)]

/-- The anchor of one armoured certificate. -/
def readEntry (entry : Ecosystem × AnchorRole × Bytes) : Except TrustAnchorError TrustAnchor :=
  let (e, r, armour) := entry
  if e = .unknown then .error .unknownEcosystem
  else match Armour.blocks armour with
    | [.bytes content] => TrustAnchor.ofEncoded e r content
    | .broken :: _ => .error .unreadableCertificate
    | _ => .error (.notOneCertificate e r)

/-- Builds a registry from armoured certificates; every place must be filled once. -/
def ofArmoured (entries : List (Ecosystem × AnchorRole × Bytes)) :
    Except TrustAnchorError Registry := do
  let anchors ← entries.mapM readEntry
  match places.find? fun (e, r) => (matching anchors e r).length ≠ 1 with
  | some (e, r) => throw (.incompleteTable e r)
  | none => return ⟨anchors⟩

/-- The registry of the accredited authorities. -/
def accredited : Except TrustAnchorError Registry :=
  ofArmoured Accredited.entries

/-- The anchor of an ecosystem and a role. -/
def anchor (g : Registry) (e : Ecosystem) (r : AnchorRole) : Except TrustAnchorError TrustAnchor :=
  if e = .unknown then .error .unknownEcosystem
  else match (matching g.anchors e r).head? with
    | some a => .ok a
    | none => .error (.incompleteTable e r)

/-- The anchors in order, each certificate once. -/
def distinct (anchors : List TrustAnchor) : List TrustAnchor :=
  anchors.foldl (fun seen a =>
    if seen.any fun b => b.encoding = a.encoding then seen else seen ++ [a]) []

/-- The anchors of a role. -/
def ofRole (g : Registry) (r : AnchorRole) : List TrustAnchor :=
  g.anchors.filter fun a => a.role = r

/-- Every certificate of the registry once: roots first, then issuing authorities. -/
def allAnchors (g : Registry) : List TrustAnchor :=
  distinct (g.ofRole .root ++ g.ofRole .sub)

end Registry

end SignerTrust
