/-!
# Arithmetic modulo a number

Powers by repeated squaring, and what follows from them when the modulus is prime: inverses and
square roots.
-/

namespace SignerTrust.Modular

/-- `base ^ exponent` modulo `m`, by the binary digits of the exponent; `fuel` bounds their
number. -/
def powAux (m : Nat) : (fuel : Nat) → (acc base exponent : Nat) → Nat
  | 0, acc, _, _ => acc
  | fuel + 1, acc, base, exponent =>
    if exponent = 0 then acc
    else
      let acc := if exponent % 2 = 1 then acc * base % m else acc
      powAux m fuel acc (base * base % m) (exponent / 2)

/-- `base ^ exponent` modulo `m`. -/
def pow (base exponent m : Nat) : Nat :=
  powAux m (exponent.log2 + 1) (1 % m) (base % m) exponent

/-- The difference modulo `m` of two numbers below `m`. -/
def sub (a b m : Nat) : Nat :=
  (a + (m - b)) % m

/-- The inverse modulo a prime. -/
def inverse (a p : Nat) : Nat :=
  pow a (p - 2) p

/-- The largest power of two that divides a positive number, as an exponent, and the odd part. -/
def oddPart : (fuel : Nat) → Nat → Nat × Nat
  | 0, n => (0, n)
  | fuel + 1, n =>
    if n % 2 = 0 ∧ n ≠ 0 then
      let (s, q) := oddPart fuel (n / 2)
      (s + 1, q)
    else (0, n)

/-- The least `i ≤ fuel` for which `t ^ (2 ^ i)` is one. -/
def orderExponent (p : Nat) : (fuel : Nat) → Nat → Nat
  | 0, _ => 0
  | fuel + 1, t => if t = 1 then 0 else orderExponent p fuel (t * t % p) + 1

/-- One after another, mends `r` until its square is the number sought: `t` is the quotient, a root
of one of order at most `2 ^ m`, and `c` a root of one of order `2 ^ m`. -/
def mendRoot (p : Nat) : (fuel : Nat) → (m c t r : Nat) → Nat
  | 0, _, _, _, r => r
  | fuel + 1, m, c, t, r =>
    if t = 1 then r
    else
      let i := orderExponent p m t
      let b := pow c (1 <<< (m - i - 1)) p
      mendRoot p fuel i (b * b % p) (t * (b * b % p) % p) (r * b % p)

/-- A square root modulo an odd prime, if there is one. -/
def sqrt? (a p : Nat) : Option Nat :=
  let a := a % p
  if a = 0 then some 0
  else if pow a ((p - 1) / 2) p ≠ 1 then none
  else
    let (s, q) := oddPart (p.log2 + 1) (p - 1)
    let z := ((List.range 200).find? fun z => pow z ((p - 1) / 2) p = p - 1).getD 0
    some (mendRoot p (s + 1) s (pow z q p) (pow a q p) (pow a ((q + 1) / 2) p))

end SignerTrust.Modular
