import SignerTrust.Calendar
import SignerTrust.Toml.Lexical
import SignerTrust.Toml.Value

/-!
# Numbers and moments of TOML

Integers have 64 bits with sign and four bases.  A moment is a date, a time of day, or both with an
offset; it is kept as its text in one spelling.
-/

namespace SignerTrust.Toml

/-- Digits of a kind, at least one; underscores may stand between two of them. -/
def digits? (isDigit : Char → Bool) : List Char → Option (List Char × List Char)
  | [] => none
  | c :: cs =>
    if !isDigit c then none
    else match cs with
      | '_' :: cs => (digits? isDigit cs).map fun (ds, rest) => (c :: ds, rest)
      | cs =>
        match digits? isDigit cs with
        | some (ds, rest) => some (c :: ds, rest)
        | none => some ([c], cs)

/-- The number that digits write in a base. -/
def numberOf (base : Nat) (ds : List Char) : Nat :=
  ds.foldl (fun n c => n * base + (Bytes.hexValue? c).getD 0) 0

/-- Whether a character is a digit of a base. -/
def isDigitOf (base : Nat) (c : Char) : Bool :=
  match Bytes.hexValue? c with
  | some d => d < base
  | none => false

/-- A sign: whether it is a minus. -/
def sign : List Char → Bool × List Char
  | '-' :: cs => (true, cs)
  | '+' :: cs => (false, cs)
  | cs => (false, cs)

/-- Decimal digits without leading zeros. -/
def wholeDigits? (cs : List Char) : Option (List Char × List Char) :=
  match cs with
  | '0' :: rest => some (['0'], rest)
  | _ => digits? Char.isDigit cs

/-- Whether an integer has 64 bits. -/
def inRange (n : Int) : Bool :=
  -0x8000000000000000 ≤ n && n < 0x8000000000000000

/-- A positive integer in another base than ten, after its mark. -/
def basedInteger? (base : Nat) (cs : List Char) : Option (Int × List Char) := do
  let (ds, rest) ← digits? (isDigitOf base) cs
  let n := numberOf base ds
  if inRange n then return ((n : Int), rest) else none

/-- An integer. -/
def integer? : Reader Int
  | '0' :: 'x' :: cs => basedInteger? 16 cs
  | '0' :: 'o' :: cs => basedInteger? 8 cs
  | '0' :: 'b' :: cs => basedInteger? 2 cs
  | cs => do
    let (negative, cs) := sign cs
    let (ds, rest) ← wholeDigits? cs
    let n : Int := if negative then -(numberOf 10 ds : Int) else numberOf 10 ds
    if inRange n then return (n, rest) else none

/-- A fraction, from its point. -/
def fraction? : Reader (List Char)
  | '.' :: cs => digits? Char.isDigit cs
  | _ => none

/-- An exponent, from its mark. -/
def exponent? : Reader Int
  | e :: cs => do
    if e ≠ 'e' ∧ e ≠ 'E' then none
    else
      let (negative, cs) := sign cs
      let (ds, rest) ← digits? Char.isDigit cs
      let n := numberOf 10 ds
      return (if negative then -(n : Int) else n, rest)
  | [] => none

/-- The bound past which a power of ten no longer matters for a given count of digits. -/
def clampExponent (count : Nat) (e : Int) : Int :=
  max (-(400 + count : Nat)) (min (400 + count : Nat) e)

/-- A number with a fraction or an exponent; one that is positive and infinite is refused. -/
def decimal? (cs : List Char) : Option (Binary64 × List Char) := do
  let (negative, cs) := sign cs
  let (whole, cs) ← wholeDigits? cs
  let (digits, e, rest) ←
    match fraction? cs with
    | some (ds, cs) =>
      match exponent? cs with
      | some (e, cs) => some (whole ++ ds, e - ds.length, cs)
      | none => some (whole ++ ds, -(ds.length : Int), cs)
    | none => (exponent? cs).map fun (e, cs) => (whole, e, cs)
  match Binary64.ofDecimal negative (numberOf 10 digits) (clampExponent digits.length e) with
  | .infinite false => none
  | x => return (x, rest)

/-- Infinity or no number, after a sign. -/
def special? (cs : List Char) : Option (Binary64 × List Char) :=
  match sign cs with
  | (negative, 'i' :: 'n' :: 'f' :: rest) => some (.infinite negative, rest)
  | (_, 'n' :: 'a' :: 'n' :: rest) => some (.nan, rest)
  | _ => none

/-- Exactly `count` digits, whose number is from `low` to `high`. -/
def field? (count low high : Nat) (cs : List Char) : Option (List Char × List Char) :=
  let ds := cs.take count
  let n := numberOf 10 ds
  if ds.length = count && ds.all Char.isDigit && low ≤ n && n ≤ high then
    some (ds, cs.drop count)
  else none

/-- A given character. -/
def char? (c : Char) : List Char → Option (List Char)
  | d :: cs => if c = d then some cs else none
  | [] => none

/-- A date that exists. -/
def date? (cs : List Char) : Option (List Char × List Char) := do
  let (year, cs) ← field? 4 0 9999 cs
  let cs ← char? '-' cs
  let (month, cs) ← field? 2 1 12 cs
  let cs ← char? '-' cs
  let (day, cs) ← field? 2 1 31 cs
  if numberOf 10 day ≤ Calendar.daysInMonth (numberOf 10 year) (numberOf 10 month) then
    return (year ++ '-' :: month ++ '-' :: day, cs)
  else none

/-- The part of a second, of which nine digits count; trailing zeros are not written. -/
def secondFraction (cs : List Char) : List Char × List Char :=
  match cs with
  | '.' :: rest =>
    match rest.takeWhile Char.isDigit with
    | [] => ([], cs)
    | ds =>
      let kept := ((ds.take 9).reverse.dropWhile (· = '0')).reverse
      (if kept.isEmpty then [] else '.' :: kept, rest.dropWhile Char.isDigit)
  | _ => ([], cs)

/-- A time of day. -/
def time? (cs : List Char) : Option (List Char × List Char) := do
  let (hour, cs) ← field? 2 0 23 cs
  let cs ← char? ':' cs
  let (minute, cs) ← field? 2 0 59 cs
  let cs ← char? ':' cs
  let (second, cs) ← field? 2 0 60 cs
  let (fraction, cs) := secondFraction cs
  return (hour ++ ':' :: minute ++ ':' :: second ++ fraction, cs)

/-- An offset from universal time; that of nothing is positive. -/
def offset? : Reader (List Char)
  | c :: cs =>
    if c = 'Z' ∨ c = 'z' then some (['Z'], cs)
    else if c = '+' ∨ c = '-' then do
      let (hour, cs) ← field? 2 0 23 cs
      let cs ← char? ':' cs
      let (minute, cs) ← field? 2 0 59 cs
      let digits := hour ++ ':' :: minute
      let isNegative := c = '-' ∧ digits.any fun d => '1' ≤ d ∧ d ≤ '9'
      return ((if isNegative then '-' else '+') :: digits, cs)
    else none
  | [] => none

/-- Whether a character joins a date to a time. -/
def isJoin (c : Char) : Bool :=
  c = 'T' || c = 't' || c = ' '

/-- A date with an optional time and offset, or a time alone. -/
def moment? (cs : List Char) : Option (String × List Char) :=
  match date? cs with
  | none => (time? cs).map fun (t, rest) => (String.ofList t, rest)
  | some (date, rest) =>
    let time := match rest with
      | c :: cs => if isJoin c then time? cs else none
      | [] => none
    match time with
    | none => some (String.ofList date, rest)
    | some (time, rest) =>
      match offset? rest with
      | none => some (String.ofList (date ++ 'T' :: time), rest)
      | some (offset, rest) => some (String.ofList (date ++ 'T' :: time ++ offset), rest)

/-- A value that starts with a digit or a sign. -/
def numeric? (cs : List Char) : Option (Value × List Char) :=
  match moment? cs with
  | some (t, rest) => some (.moment t, rest)
  | none =>
    match (decimal? cs).orElse fun _ => special? cs with
    | some (x, rest) => some (.float x, rest)
    | none => (integer? cs).map fun (n, rest) => (.integer n, rest)

end SignerTrust.Toml
