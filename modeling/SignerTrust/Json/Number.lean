import SignerTrust.Decimal.Binary64
import SignerTrust.Json.Basic

/-!
# The value of a JSON number

Digits are gathered into a word of 64 bits; those that no longer fit only count for the power of
ten, or for nothing after the point.  A number without fraction and exponent that fits is an
integer.  Any other is the word times or divided by a power of ten, so that two roundings happen;
one that would be infinite is refused.
-/

namespace SignerTrust.JsonNumber

/-- A number that was read: an integer or a floating-point number. -/
inductive Value
  | integer (n : Int)
  | float (x : Binary64)
  deriving DecidableEq, Repr

/-- The value of a decimal digit. -/
def digitValue (c : Char) : Nat :=
  c.toNat - '0'.toNat

/-- Appends digits to a number while it stays below `2 ^ 64`; hands back the digits left. -/
def gather (n : Nat) : List Char → Nat × List Char
  | [] => (n, [])
  | c :: cs =>
    let next := n * 10 + digitValue c
    if next < UInt64.size then gather next cs else (n, c :: cs)

/-- The floating-point number nearest to `10 ^ k`. -/
def powerOfTen (k : Nat) : Binary64 :=
  Binary64.ofNat (Nat.pow 10 k)

/-- The greatest power of ten that is a finite floating-point number. -/
def maxPower : Nat := 308

/-- Divides by `10 ^ k`, by at most `10 ^ 308` at a time; a zero is not divided further. -/
def divideByPower : (fuel : Nat) → Binary64 → (k : Nat) → Binary64
  | 0, x, _ => x
  | fuel + 1, x, k =>
    if k ≤ maxPower then x.div (powerOfTen k)
    else if x.isZero then x
    else divideByPower fuel (x.div (powerOfTen maxPower)) (k - maxPower)

/-- `significand · 10 ^ exponent`, if it is finite. -/
def scale? (significand : Nat) (exponent : Int) : Option Binary64 :=
  let x := Binary64.ofNat significand
  if exponent < 0 then some (divideByPower 16 x (-exponent).toNat)
  else if maxPower < exponent.toNat then if x.isZero then some x else none
  else match x.mul (powerOfTen exponent.toNat) with
    | .infinite _ => none
    | y => some y

/-- The bound of an exponent's digits: the greatest number of 31 bits. -/
def maxExponentDigits : Nat := 0x7fffffff

/-- Keeps a sum of exponents within 32 bits. -/
def clampExponent (e : Int) : Int :=
  max (-0x80000000) (min 0x7fffffff e)

/-- The magnitude of a number that is not an integer, if it is finite. -/
def magnitude? (n : JsonNumber) (significand : Nat) (dropped : Nat) : Option Binary64 :=
  let fraction := n.fraction.getD []
  let (significand, left) := gather significand fraction
  let start : Int := (dropped : Int) - (fraction.length - left.length : Nat)
  match n.exponent with
  | none => scale? significand start
  | some (negative, digits) =>
    let e := digits.foldl (fun e c => e * 10 + digitValue c) 0
    if maxExponentDigits < e then
      if negative ∨ significand = 0 then some (Binary64.ofNat 0) else none
    else scale? significand (clampExponent (if negative then start - e else start + e))

/-- The value of a number, unless it is too great. -/
def value? (n : JsonNumber) : Option Value :=
  let (significand, left) := gather 0 n.digits
  let signed (x : Binary64) := if n.negative then x.neg else x
  if n.fraction.isNone ∧ n.exponent.isNone ∧ left.isEmpty then
    if !n.negative then some (.integer significand)
    else if 0 < significand ∧ significand ≤ 0x8000000000000000 then some (.integer (-significand))
    else some (.float (signed (Binary64.ofNat significand)))
  else (n.magnitude? significand left.length).map fun x => .float (signed x)

end SignerTrust.JsonNumber
