import SignerTrust.Der.Reader

/-!
# Times in certificates and revocation lists

A time is written with two digits for its year or with four.  Both forms may leave out the seconds;
the short one may name a time zone, the long one a fraction of a second.
-/

namespace SignerTrust

/-- Which of the two forms a time is written in. -/
inductive TimeForm
  | twoDigitYear
  | fourDigitYear
  deriving DecidableEq, Repr

/-- A time as it was written, and the instant it names in seconds since 1970. -/
structure Time where
  form : TimeForm
  text : Bytes
  epoch : Int
  deriving DecidableEq, Repr

namespace Time

/-- The value of an ASCII digit. -/
def digit? (b : UInt8) : Option Nat :=
  if 0x30 ≤ b ∧ b ≤ 0x39 then some (b.toNat - 0x30) else none

/-- Two digits as a number. -/
def pair? : Bytes → Option (Nat × Bytes)
  | a :: b :: rest => do return (10 * (← digit? a) + (← digit? b), rest)
  | _ => none

/-- The offset of a zone in seconds east: `Z`, or a sign, hours and minutes. -/
def zone? : Bytes → Option Int
  | [0x5a] => some 0
  | sign :: rest => do
    let (h, rest) ← pair? rest
    let (m, rest) ← pair? rest
    if !rest.isEmpty ∨ 25 < h ∨ 59 < m then none
    else if sign = 0x2b then return (h * 3600 + m * 60 : Int)
    else if sign = 0x2d then return if h = 0 then (m * 60 : Int) else -(h * 3600 + m * 60 : Int)
    else none
  | [] => none

/-- The instant of a date and time whose zone lies `offset` seconds east, if the date exists. -/
def instant? (t : CivilTime) (offset : Int) : Option Int :=
  if t.hasDate && t.hasClock then some (t.toEpoch - offset) else none

/-- Reads `yymmddhhmm`, then seconds if two characters are left for them, then a zone. -/
def shortForm? (text : Bytes) : Option Int := do
  let (yy, r) ← pair? text
  let (month, r) ← pair? r
  let (day, r) ← pair? r
  let (hour, r) ← pair? r
  let (minute, r) ← pair? r
  let (second, r) := match pair? r with
    | some (s, r) => (s, r)
    | none => (0, if 2 ≤ r.length then r.drop 2 else r)
  let offset ← zone? r
  instant? ⟨if yy < 50 then 2000 + yy else 1900 + yy, month, day, hour, minute, second⟩ offset

/-- Drops a point and one to three digits. -/
def dropFraction? : Bytes → Option Bytes
  | 0x2e :: rest =>
    let digits := rest.takeWhile fun b => 0x30 ≤ b && b ≤ 0x39
    if digits.isEmpty ∨ 3 < digits.length then none else some (rest.drop digits.length)
  | rest => some rest

/-- Reads `yyyymmddhh`, then minutes, seconds and a fraction as far as they are given, then `Z`. -/
def longForm? (text : Bytes) : Option Int := do
  let (century, r) ← pair? text
  let (yy, r) ← pair? r
  let (month, r) ← pair? r
  let (day, r) ← pair? r
  let (hour, r) ← pair? r
  let (minute, r) ← if 2 ≤ r.length then pair? r else some (0, r)
  let (second, r) ← if 2 ≤ r.length then pair? r else some (0, r)
  let r ← dropFraction? r
  if r = [0x5a] then instant? ⟨100 * century + yy, month, day, hour, minute, second⟩ 0 else none

/-- Reads a time of either form. -/
def read? (bytes : Bytes) : Option (Time × Bytes) := do
  let (e, rest) ← Der.Element.read? bytes
  if e.constructed ∨ !e.content.all (fun b => 0x20 ≤ b && b < 0x7f) then none
  else if e.tag = Der.Tag.utcTime then
    return (⟨.twoDigitYear, e.content, ← shortForm? e.content⟩, rest)
  else if e.tag = Der.Tag.generalizedTime then
    return (⟨.fourDigitYear, e.content, ← longForm? e.content⟩, rest)
  else none

end Time

end SignerTrust
