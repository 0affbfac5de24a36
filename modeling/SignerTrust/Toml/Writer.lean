import SignerTrust.Bytes

/-!
# Writing TOML strings

A string is written between double quotes if nothing in it needs an escape, else between single
quotes if it can stand there as it is, else over several lines in one of the two ways, and with
escapes only if nothing else does.
-/

namespace SignerTrust.Toml

/-- The four ways to write a string. -/
inductive Quotation
  | basic
  | literal
  | basicLines
  | literalLines
  deriving DecidableEq, Repr

/-- The length of the longest run of a character. -/
def longestRun (q : Char) (cs : List Char) : Nat :=
  go 0 cs
where
  go (run : Nat) : List Char → Nat
    | [] => run
    | c :: rest => if c = q then go (run + 1) rest else max run (go 0 rest)

/-- Whether a character is a control character that cannot stand for itself: any but the tabulator
and the end of a line. -/
def needsEscape (c : Char) : Bool :=
  (c.toNat < 0x20 && c ≠ '\t' && c ≠ '\n') || c.toNat = 0x7f

/-- The way in which a string is written. -/
def Quotation.choose (cs : List Char) : Quotation :=
  let control := cs.any needsEscape
  let backslash := cs.contains '\\'
  let lines := cs.contains '\n'
  let doubles := longestRun '"' cs
  let singles := longestRun '\'' cs
  if !control && !backslash && doubles = 0 && !lines then .basic
  else if !control && singles = 0 && !lines then .literal
  else if !control && !backslash && doubles ≤ 2 then .basicLines
  else if !control && singles ≤ 2 then .literalLines
  else if lines then .basicLines
  else .basic

/-- The upper-case form of a hexadecimal digit. -/
def upperDigit (n : Nat) : Char :=
  (Bytes.hexDigit n).toUpper

/-- A character below 65536 as an escape of four digits. -/
def numbered (c : Char) : List Char :=
  let n := c.toNat
  ['\\', 'u', upperDigit (n / 4096 % 16), upperDigit (n / 256 % 16), upperDigit (n / 16 % 16),
    upperDigit (n % 16)]

/-- Writes a character other than the quote between double quotes. -/
def escapedChar (lines : Bool) (c : Char) : List Char :=
  if c = '\x08' then ['\\', 'b']
  else if c = '\t' then ['\\', 't']
  else if c = '\n' then if lines then ['\n'] else ['\\', 'n']
  else if c = '\x0c' then ['\\', 'f']
  else if c = '\r' then ['\\', 'r']
  else if c = '\\' then ['\\', '\\']
  else if needsEscape c then numbered c
  else [c]

/-- Writes what stands between double quotes.  `quotes` counts the quotes just before, and only one
that would be more than `most` in a row is escaped. -/
def escaped (lines : Bool) (most : Nat) : (quotes : Nat) → List Char → List Char
  | _, [] => []
  | quotes, c :: rest =>
    if c = '"' then
      if most < quotes + 1 then '\\' :: '"' :: escaped lines most 0 rest
      else '"' :: escaped lines most (quotes + 1) rest
    else escapedChar lines c ++ escaped lines most 0 rest

/-- Writes a string. -/
def writeChars (cs : List Char) : List Char :=
  let start := if cs.contains '\n' then ['\n'] else []
  match Quotation.choose cs with
  | .basic => '"' :: escaped false 0 0 cs ++ ['"']
  | .literal => '\'' :: cs ++ ['\'']
  | .basicLines =>
    let quotes := ['"', '"', '"']
    quotes ++ start ++ escaped true 2 0 cs ++ quotes
  | .literalLines =>
    let quotes := ['\'', '\'', '\'']
    quotes ++ start ++ cs ++ quotes

/-- Writes a string. -/
def writeString (s : String) : String :=
  String.ofList (writeChars s.toList)

/-- Writes a list of strings on one line. -/
def writeStrings (items : List String) : String :=
  "[" ++ String.intercalate ", " (items.map writeString) ++ "]"

/-- Writes a truth value. -/
def writeFlag (b : Bool) : String :=
  if b then "true" else "false"

/-- Writes an entry on a line of its own. -/
def writeEntry (name value : String) : String :=
  name ++ " = " ++ value ++ "\n"

/-- Writes the header of a table on a line of its own. -/
def writeHeader (name : String) : String :=
  "[" ++ name ++ "]\n"

end SignerTrust.Toml
