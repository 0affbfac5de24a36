import SignerTrust.Bytes
import SignerTrust.Json.Basic

/-!
# Reading JSON

Values are read by descent.  Four characters count as blank; literals, numbers and escapes have one
spelling; nothing may follow the value.  Each step uses up input, so the number of characters bounds
the steps.
-/

namespace SignerTrust.Json

/-- The four blanks. -/
def isBlank (c : Char) : Bool :=
  c = ' ' || c = '\n' || c = '\t' || c = '\r'

/-- The input from its first character that is not blank. -/
def skipBlanks (cs : List Char) : List Char :=
  cs.dropWhile isBlank

/-- Drops a given start. -/
def dropStart? : List Char → List Char → Option (List Char)
  | [], cs => some cs
  | _ :: _, [] => none
  | x :: xs, c :: cs => if x = c then dropStart? xs cs else none

/-- Four hexadecimal digits. -/
def hex4? : List Char → Option (Nat × List Char)
  | a :: b :: c :: d :: rest => do
    let digits ← [a, b, c, d].mapM Bytes.hexValue?
    return (digits.foldl (fun n d => n * 16 + d) 0, rest)
  | _ => none

/-- What a letter after a backslash stands for. -/
def shortEscape? (c : Char) : Option Nat :=
  match c with
  | '"' => some 0x22
  | '\\' => some 0x5c
  | '/' => some 0x2f
  | 'b' => some 0x08
  | 'f' => some 0x0c
  | 'n' => some 0x0a
  | 'r' => some 0x0d
  | 't' => some 0x09
  | _ => none

/-- Joins a surrogate to the string that follows it, if that starts with its partner; `escaped` says
that the string starts with an escape. -/
def joinSurrogate (n : Nat) (tail : JsonString) (escaped : Bool) : JsonString :=
  match tail with
  | m :: rest =>
    if escaped ∧ 0xd800 ≤ n ∧ n < 0xdc00 ∧ 0xdc00 ≤ m ∧ m < 0xe000 then
      (0x10000 + (n - 0xd800) * 1024 + (m - 0xdc00)) :: rest
    else n :: tail
  | [] => [n]

/-- The code points up to the closing quote.  Control characters must be escaped. -/
def stringBody? : (fuel : Nat) → List Char → Option (JsonString × List Char)
  | 0, _ => none
  | _ + 1, [] => none
  | fuel + 1, c :: cs =>
    if c = '"' then some ([], cs)
    else if c = '\\' then
      match cs with
      | [] => none
      | 'u' :: cs => do
        let (n, cs) ← hex4? cs
        let (tail, rest) ← stringBody? fuel cs
        return (joinSurrogate n tail (cs.take 2 = ['\\', 'u']), rest)
      | e :: cs => do
        let n ← shortEscape? e
        let (tail, rest) ← stringBody? fuel cs
        return (n :: tail, rest)
    else if c.toNat < 0x20 then none
    else do
      let (tail, rest) ← stringBody? fuel cs
      return (c.toNat :: tail, rest)

/-- Digits, at least one. -/
def digits? (cs : List Char) : Option (List Char × List Char) :=
  match cs.takeWhile Char.isDigit with
  | [] => none
  | d :: ds => some (d :: ds, cs.dropWhile Char.isDigit)

/-- A fraction, if a point follows. -/
def fraction? : List Char → Option (Option (List Char) × List Char)
  | '.' :: cs => (digits? cs).map fun (ds, rest) => (some ds, rest)
  | cs => some (none, cs)

/-- An exponent, if its mark follows. -/
def exponent? : List Char → Option (Option (Bool × List Char) × List Char)
  | [] => some (none, [])
  | e :: cs =>
    if e = 'e' ∨ e = 'E' then
      match cs with
      | '-' :: cs => (digits? cs).map fun (ds, rest) => (some (true, ds), rest)
      | '+' :: cs => (digits? cs).map fun (ds, rest) => (some (false, ds), rest)
      | cs => (digits? cs).map fun (ds, rest) => (some (false, ds), rest)
    else some (none, e :: cs)

/-- A number; a leading zero stands alone. -/
def number? (cs : List Char) : Option (JsonNumber × List Char) := do
  let (negative, cs) := match cs with
    | '-' :: cs => (true, cs)
    | cs => (false, cs)
  let (digits, cs) ← digits? cs
  if digits.head? = some '0' ∧ digits.length ≠ 1 then none
  else
    let (fraction, cs) ← fraction? cs
    let (exponent, cs) ← exponent? cs
    return (⟨negative, digits, fraction, exponent⟩, cs)

mutual

/-- A value, after blanks. -/
def value? : (fuel : Nat) → List Char → Option (Json × List Char)
  | 0, _ => none
  | fuel + 1, cs =>
    match skipBlanks cs with
    | [] => none
    | 'n' :: cs => (dropStart? "ull".toList cs).map fun cs => (null, cs)
    | 't' :: cs => (dropStart? "rue".toList cs).map fun cs => (bool true, cs)
    | 'f' :: cs => (dropStart? "alse".toList cs).map fun cs => (bool false, cs)
    | '"' :: cs => (stringBody? (cs.length + 1) cs).map fun (s, cs) => (string s, cs)
    | '[' :: cs =>
      match skipBlanks cs with
      | ']' :: cs => some (array [], cs)
      | cs => (items? fuel cs).map fun (items, cs) => (array items, cs)
    | '\x7b' :: cs =>
      match skipBlanks cs with
      | '\x7d' :: cs => some (object [], cs)
      | cs => (members? fuel cs).map fun (members, cs) => (object members, cs)
    | c :: cs => (number? (c :: cs)).map fun (n, cs) => (number n, cs)

/-- The items of an array up to its end, at least one. -/
def items? : (fuel : Nat) → List Char → Option (List Json × List Char)
  | 0, _ => none
  | fuel + 1, cs =>
    match value? fuel cs with
    | none => none
    | some (item, cs) =>
      match skipBlanks cs with
      | ',' :: cs => (items? fuel cs).map fun (items, cs) => (item :: items, cs)
      | ']' :: cs => some ([item], cs)
      | _ => none

/-- The members of an object up to its end, at least one. -/
def members? : (fuel : Nat) → List Char → Option (List (JsonString × Json) × List Char)
  | 0, _ => none
  | fuel + 1, cs =>
    match skipBlanks cs with
    | '"' :: cs =>
      match stringBody? (cs.length + 1) cs with
      | none => none
      | some (key, cs) =>
        match skipBlanks cs with
        | ':' :: cs =>
          match value? fuel cs with
          | none => none
          | some (item, cs) =>
            match skipBlanks cs with
            | ',' :: cs => (members? fuel cs).map fun (rest, cs) => ((key, item) :: rest, cs)
            | '\x7d' :: cs => some ([(key, item)], cs)
            | _ => none
        | _ => none
    | _ => none

end

/-- Reads a text that holds one value. -/
def parse? (text : String) : Option Json :=
  let cs := text.toList
  match value? (cs.length + 1) cs with
  | some (j, rest) => if (skipBlanks rest).isEmpty then some j else none
  | none => none

end SignerTrust.Json
