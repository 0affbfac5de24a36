/-!
# Civil dates

Dates of the proleptic Gregorian calendar and their distance in seconds from the first instant of
1970.
-/

namespace SignerTrust

/-- A date and a time of day. -/
structure CivilTime where
  year : Nat
  month : Nat
  day : Nat
  hour : Nat
  minute : Nat
  second : Nat
  deriving DecidableEq, Repr

namespace Calendar

/-- Whether a year has a 29 February. -/
def isLeap (year : Nat) : Bool :=
  year % 4 = 0 && (year % 100 ≠ 0 || year % 400 = 0)

/-- The number of days of a month, `1 ≤ month ≤ 12`. -/
def daysInMonth (year month : Nat) : Nat :=
  if month = 2 then if isLeap year then 29 else 28
  else if month = 4 ∨ month = 6 ∨ month = 9 ∨ month = 11 then 30
  else 31

/-- Days from the first day of 1970 to a date.  Years are counted from March, so that a leap day
ends its year. -/
def daysFromEpoch (year month day : Nat) : Int :=
  let y : Int := (year : Int) - if month ≤ 2 then 1 else 0
  let era := y / 400
  let yearOfEra := y - era * 400
  let shifted : Int := if month ≤ 2 then (month : Int) + 9 else (month : Int) - 3
  let dayOfYear := (153 * shifted + 2) / 5 + (day : Int) - 1
  let dayOfEra := yearOfEra * 365 + yearOfEra / 4 - yearOfEra / 100 + dayOfYear
  era * 146097 + dayOfEra - 719468

end Calendar

namespace CivilTime

/-- Whether the date exists. -/
def hasDate (t : CivilTime) : Bool :=
  1 ≤ t.month && t.month ≤ 12 && 1 ≤ t.day && t.day ≤ Calendar.daysInMonth t.year t.month

/-- Whether the time of day exists; a minute has sixty seconds. -/
def hasClock (t : CivilTime) : Bool :=
  t.hour ≤ 23 && t.minute ≤ 59 && t.second ≤ 59

/-- Seconds since the first instant of 1970, for a time in universal time. -/
def toEpoch (t : CivilTime) : Int :=
  Calendar.daysFromEpoch t.year t.month t.day * 86400
    + (t.hour * 3600 + t.minute * 60 + t.second : Nat)

end CivilTime

end SignerTrust
