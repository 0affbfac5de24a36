import SignerTrust.Bytes

/-!
# Blanks, keys and strings of TOML

A reader takes its part off the front of the input and hands back the rest.
-/

namespace SignerTrust.Toml

/-- Reads a part off the front of a text. -/
abbrev Reader (α : Type) := List Char → Option (α × List Char)

/-- Whether a character is a blank within a line. -/
def isBlank (c : Char) : Bool :=
  c = ' ' || c = '\t'

/-- The input after blanks. -/
def skipBlanks (cs : List Char) : List Char :=
  cs.dropWhile isBlank

/-- The input after the end of a line. -/
def newline? : List Char → Option (List Char)
  | '\n' :: cs => some cs
  | '\r' :: '\n' :: cs => some cs
  | _ => none

/-- The input after a line's end, if it starts with one. -/
def skipNewline (cs : List Char) : List Char :=
  (newline? cs).getD cs

/-- Whether a character may stand in a comment. -/
def isPrintable (c : Char) : Bool :=
  c = '\t' || (0x20 ≤ c.toNat && c.toNat ≠ 0x7f)

/-- The input after a comment, if it starts with one. -/
def skipComment : List Char → List Char
  | '#' :: cs => cs.dropWhile isPrintable
  | cs => cs

/-- Passes over blanks, a comment and the end of the line or of the text. -/
def endLine? (cs : List Char) : Option (List Char) :=
  match skipComment (skipBlanks cs) with
  | [] => some []
  | cs => newline? cs

/-- The input after blanks, comments and line ends. -/
def skipLines : (fuel : Nat) → List Char → List Char
  | 0, cs => cs
  | fuel + 1, cs =>
    let cs := skipBlanks cs
    match newline? (skipComment cs) with
    | some rest => skipLines fuel rest
    | none => cs

/-- The character whose number `count` hexadecimal digits write. -/
def codePoint? (count : Nat) (cs : List Char) : Option (Char × List Char) := do
  let digits := cs.take count
  if digits.length < count then none
  else
    let values ← digits.mapM Bytes.hexValue?
    let n := values.foldl (fun n d => n * 16 + d) 0
    if Nat.isValidChar n then return (Char.ofNat n, cs.drop count) else none

/-- What follows a backslash within quotes. -/
def escape? : Reader Char
  | 'b' :: cs => some ('\x08', cs)
  | 't' :: cs => some ('\t', cs)
  | 'n' :: cs => some ('\n', cs)
  | 'f' :: cs => some ('\x0c', cs)
  | 'r' :: cs => some ('\r', cs)
  | '"' :: cs => some ('"', cs)
  | '\\' :: cs => some ('\\', cs)
  | 'u' :: cs => codePoint? 4 cs
  | 'U' :: cs => codePoint? 8 cs
  | _ => none

/-- A string with escapes, up to its closing quote. -/
def quoted? : (fuel : Nat) → Reader (List Char)
  | 0, _ => none
  | _ + 1, [] => none
  | fuel + 1, c :: cs =>
    if c = '"' then some ([], cs)
    else do
      let (c, cs) ← if c = '\\' then escape? cs else if isPrintable c then some (c, cs) else none
      let (tail, rest) ← quoted? fuel cs
      return (c :: tail, rest)

/-- A string without escapes, up to its closing quote. -/
def literal? (cs : List Char) : Option (List Char × List Char) :=
  let body := cs.takeWhile fun c => isPrintable c && c ≠ '\''
  match cs.drop body.length with
  | '\'' :: rest => some (body, rest)
  | _ => none

/-- At the quote `q` in a string of several lines: the quotes that belong to it, and the input after
the string if it ends here.  Three to five quotes end it, and the last three are its closing. -/
def closing? (q : Char) (cs : List Char) : Option (List Char × Option (List Char)) :=
  let count := (cs.takeWhile (· = q)).length
  if count < 3 then some (List.replicate count q, none)
  else if count ≤ 5 then some (List.replicate (count - 3) q, some (cs.drop count))
  else none

/-- The input after blanks and line ends. -/
def skipBlankLines : (fuel : Nat) → List Char → List Char
  | 0, cs => cs
  | fuel + 1, cs =>
    let cs := skipBlanks cs
    match newline? cs with
    | some rest => skipBlankLines fuel rest
    | none => cs

/-- The input after a backslash at the end of a line, and after the blanks and line ends that
follow. -/
def continuation? (cs : List Char) : Option (List Char) :=
  (newline? (skipBlanks cs)).map fun rest => skipBlankLines rest.length rest

/-- A string with escapes over several lines, up to its closing quotes. -/
def quotedLines? : (fuel : Nat) → Reader (List Char)
  | 0, _ => none
  | _ + 1, [] => none
  | fuel + 1, c :: cs =>
    if c = '"' then
      match closing? '"' (c :: cs) with
      | none => none
      | some (quotes, some rest) => some (quotes, rest)
      | some (quotes, none) =>
        (quotedLines? fuel (cs.drop (quotes.length - 1))).map fun (tail, rest) =>
          (quotes ++ tail, rest)
    else if c = '\\' then
      match continuation? cs with
      | some rest => quotedLines? fuel rest
      | none => do
        let (c, cs) ← escape? cs
        let (tail, rest) ← quotedLines? fuel cs
        return (c :: tail, rest)
    else
      match newline? (c :: cs) with
      | some cs => (quotedLines? fuel cs).map fun (tail, rest) => ('\n' :: tail, rest)
      | none =>
        if isPrintable c then (quotedLines? fuel cs).map fun (tail, rest) => (c :: tail, rest)
        else none

/-- A string without escapes over several lines, up to its closing quotes. -/
def literalLines? : (fuel : Nat) → Reader (List Char)
  | 0, _ => none
  | _ + 1, [] => none
  | fuel + 1, c :: cs =>
    if c = '\'' then
      match closing? '\'' (c :: cs) with
      | none => none
      | some (quotes, some rest) => some (quotes, rest)
      | some (quotes, none) =>
        (literalLines? fuel (cs.drop (quotes.length - 1))).map fun (tail, rest) =>
          (quotes ++ tail, rest)
    else
      match newline? (c :: cs) with
      | some cs => (literalLines? fuel cs).map fun (tail, rest) => ('\n' :: tail, rest)
      | none =>
        if isPrintable c then (literalLines? fuel cs).map fun (tail, rest) => (c :: tail, rest)
        else none

/-- A string of one line, from its opening quote. -/
def lineString? : Reader (List Char)
  | '"' :: cs => quoted? (cs.length + 1) cs
  | '\'' :: cs => literal? cs
  | _ => none

/-- A string of any of the four kinds, from its opening quotes. -/
def string? : Reader (List Char)
  | '"' :: '"' :: '"' :: cs => quotedLines? (cs.length + 1) (skipNewline cs)
  | '\'' :: '\'' :: '\'' :: cs => literalLines? (cs.length + 1) (skipNewline cs)
  | cs => lineString? cs

/-- Whether a character may stand in a key without quotes. -/
def isKeyChar (c : Char) : Bool :=
  ('a' ≤ c && c ≤ 'z') || ('A' ≤ c && c ≤ 'Z') || c.isDigit || c = '_' || c = '-'

/-- One name of a key. -/
def name? (cs : List Char) : Option (String × List Char) :=
  match cs.takeWhile isKeyChar with
  | [] => (lineString? cs).map fun (s, rest) => (String.ofList s, rest)
  | c :: name => some (String.ofList (c :: name), cs.dropWhile isKeyChar)

/-- The names of a key, which points join, with blanks around them. -/
def names? : (fuel : Nat) → Reader (List String)
  | 0, _ => none
  | fuel + 1, cs => do
    let (name, cs) ← name? (skipBlanks cs)
    match skipBlanks cs with
    | '.' :: cs => do
      let (names, cs) ← names? fuel cs
      return (name :: names, cs)
    | cs => return ([name], cs)

/-- The bound on how deeply keys, arrays and tables within values nest. -/
def maxDepth : Nat := 80

/-- A key: the names before its last, and that. -/
def key? (cs : List Char) : Option ((List String × String) × List Char) := do
  let (names, rest) ← names? (cs.length + 1) cs
  if maxDepth ≤ names.length then none
  else return ((names.dropLast, ← names.getLast?), rest)

end SignerTrust.Toml
