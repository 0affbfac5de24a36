import SignerTrust.Bytes

/-!
# Addresses of eight groups

An address of the newer kind is eight groups of sixteen bits.  Its text may leave out one run of
zero groups and may write the last two groups as four decimal numbers; it is printed with the
longest run of two or more zero groups left out.
-/

namespace SignerTrust.Ipv6

/-- How many groups an address has. -/
def groupCount : Nat := 8

/-- A decimal number below 256 without a leading zero. -/
def octet? (digits : List Char) : Option Nat :=
  let n := digits.foldl (fun n c => n * 10 + (c.toNat - '0'.toNat)) 0
  if digits.isEmpty ∨ !digits.all Char.isDigit ∨ (digits.head? = some '0' ∧ digits ≠ ['0'])
      ∨ 255 < n then none
  else some n

/-- Splits a text at each point. -/
def splitPoints : List Char → List (List Char)
  | [] => [[]]
  | c :: cs =>
    match splitPoints cs with
    | [] => [[c]]
    | part :: parts => if c = '.' then [] :: part :: parts else (c :: part) :: parts

/-- The two groups of four decimal numbers. -/
def decimalGroups? (cs : List Char) : Option (List Nat) := do
  match ← (splitPoints cs).mapM octet? with
  | [a, b, c, d] => return [a * 256 + b, c * 256 + d]
  | _ => none

/-- Reads groups.  `done` holds those read so far, a left-out run as one of them, and `gap` says how
many there were up to the run. -/
def groups? : (fuel : Nat) → (done : List Nat) → (gap : Option Nat) → List Char →
    Option (List Nat × Option Nat)
  | _, done, gap, [] => some (done, gap)
  | 0, _, _, _ :: _ => none
  | fuel + 1, done, gap, c :: cs =>
    if groupCount ≤ done.length then none
    else if c = ':' then
      if gap.isSome then none else groups? fuel (done ++ [0]) (some (done.length + 1)) cs
    else
      let digits := ((c :: cs).take 4).takeWhile fun d => (Bytes.hexValue? d).isSome
      let value := digits.foldl (fun n d => n * 16 + (Bytes.hexValue? d).getD 0) 0
      match (c :: cs).drop digits.length with
      | [] => some (done ++ [value], gap)
      | ':' :: d :: rest => groups? fuel (done ++ [value]) gap (d :: rest)
      | '.' :: _ =>
        if digits.isEmpty ∨ groupCount < done.length + 2 then none
        else (decimalGroups? (c :: cs)).map fun gs => (done ++ gs, gap)
      | _ => none

/-- Reads an address. -/
def parse? (cs : List Char) : Option (List Nat) := do
  let (done, gap) ← match cs with
    | ':' :: ':' :: rest => groups? rest.length [0] (some 1) rest
    | ':' :: _ => none
    | cs => if cs.length < 2 then none else groups? cs.length [] none cs
  match gap with
  | some n => some (done.take n ++ List.replicate (groupCount - done.length) 0 ++ done.drop n)
  | none => if done.length = groupCount then some done else none

/-- The number of zeros at the front of a list. -/
def zeros (groups : List Nat) : Nat :=
  (groups.takeWhile (· = 0)).length

/-- Where the longest run of zero groups starts, the first of equal ones, and its length. -/
def longestRun (groups : List Nat) : Nat × Nat :=
  (List.range groups.length).foldl (fun best i =>
    let length := zeros (groups.drop i)
    if best.2 < length then (i, length) else best) (0, 0)

/-- A group in hexadecimal without leading zeros. -/
def groupText (n : Nat) : String :=
  String.ofList (Nat.toDigits 16 n)

/-- The text of an address. -/
def text (groups : List Nat) : String :=
  let (start, length) := longestRun groups
  let joined := fun (gs : List Nat) => ":".intercalate (gs.map groupText)
  if length < 2 then joined groups
  else joined (groups.take start) ++ "::" ++ joined (groups.drop (start + length))

end SignerTrust.Ipv6
