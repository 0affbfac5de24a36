import SignerTrust.Decimal.Binary64

/-!
# The shortest text of a floating-point number

A finite number is written with the fewest digits that read back to it, and of those with the
digits nearest to it.  The digits are written out in full, without an exponent.
-/

namespace SignerTrust.Binary64

/-- The numbers that read back to a positive number lie between two quotients over one
denominator, and the ends count if the mantissa is even. -/
structure Interval where
  low : Nat
  value : Nat
  high : Nat
  den : Nat
  closed : Bool
  deriving Repr

/-- The interval of the number `mantissa · 2 ^ exponent`.  Below a power of two the next number is
only half as far away. -/
def interval (mantissa : Nat) (exponent : Int) : Interval :=
  let narrow := mantissa = 1 <<< (precision - 1) ∧ minExponent < exponent
  let (one, den) := scaled 1 1 (exponent - 2)
  { low := (4 * mantissa - if narrow then 1 else 2) * one
    value := 4 * mantissa * one
    high := (4 * mantissa + 2) * one
    den
    closed := mantissa % 2 = 0 }

/-- Whether `n · 10 ^ scale` lies in the interval. -/
def Interval.contains (i : Interval) (n : Nat) (scale : Int) : Bool :=
  let (up, down) : Nat × Nat :=
    if 0 ≤ scale then (Nat.pow 10 scale.toNat, 1) else (1, Nat.pow 10 (-scale).toNat)
  let x := n * up * i.den
  if i.closed then i.low * down ≤ x && x ≤ i.high * down
  else i.low * down < x && x < i.high * down

/-- The value divided by `10 ^ scale`, as a quotient. -/
def Interval.over (i : Interval) (scale : Int) : Nat × Nat :=
  if 0 ≤ scale then (i.value, i.den * Nat.pow 10 scale.toNat)
  else (i.value * Nat.pow 10 (-scale).toNat, i.den)

/-- The least power of ten above the value. -/
def Interval.magnitude (i : Interval) : Int :=
  let digits (n : Nat) : Int := (Nat.toDigits 10 n).length
  let guess := digits i.value - digits i.den
  let below (k : Int) : Bool := let (n, d) := i.over k; n < d
  if below guess then guess else guess + 1

/-- The multiple of `10 ^ scale` in the interval that is nearest to the value. -/
def Interval.nearest? (i : Interval) (scale : Int) : Option Nat :=
  let (n, d) := i.over scale
  let q := n / d
  match i.contains q scale, i.contains (q + 1) scale with
  | true, true => if 2 * (n % d) ≤ d then some q else some (q + 1)
  | true, false => some q
  | false, true => some (q + 1)
  | false, false => none

/-- The shortest decimal in the interval: digits and the power of ten they count. -/
def Interval.shortest (i : Interval) : Nat × Int :=
  let k := i.magnitude
  ((List.range 17).findSome? fun (n : Nat) =>
    let scale : Int := k - (n + 1)
    (i.nearest? scale).map fun digits => (digits, scale)).getD (i.value, 0)

/-- Writes `digits · 10 ^ scale` without an exponent and without needless zeros. -/
def positional (digits : Nat) (scale : Int) : List Char :=
  let text := Nat.toDigits 10 digits
  if 0 ≤ scale then text ++ List.replicate scale.toNat '0'
  else
    let places := (-scale).toNat
    let padded := List.replicate (places + 1 - text.length) '0' ++ text
    let whole := padded.take (padded.length - places)
    let fraction := ((padded.drop (padded.length - places)).reverse.dropWhile (· = '0')).reverse
    if fraction.isEmpty then whole else whole ++ '.' :: fraction

/-- The text of a number. -/
def text : Binary64 → String
  | nan => "NaN"
  | infinite negative => if negative then "-inf" else "inf"
  | finite negative m e =>
    let magnitude :=
      if m = 0 then ['0']
      else
        let (digits, scale) := (interval m e).shortest
        positional digits scale
    String.ofList (if negative then '-' :: magnitude else magnitude)

end SignerTrust.Binary64
