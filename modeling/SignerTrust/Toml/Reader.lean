import SignerTrust.Toml.Number

/-!
# Reading TOML

A document is read line by line: a header opens a table, and a key with a value adds an entry to the
open one.  Arrays and tables within values nest less than eighty deep.
-/

namespace SignerTrust.Toml

/-- A table within a value, from its entries as they were written. -/
def inlineTable? (entries : List ((List String × String) × Value)) : Option Value :=
  (entries.foldlM (fun es e => Entries.addDotted? es e.1.2 e.2 e.1.1) []).map (.table .inline)

mutual

/-- A value, at a depth of nesting. -/
def value? : (fuel : Nat) → (depth : Nat) → Reader Value
  | 0, _, _ => none
  | fuel + 1, depth, cs =>
    match cs with
    | [] => none
    | c :: rest =>
      if c = '"' ∨ c = '\'' then (string? cs).map fun (s, rest) => (.string (String.ofList s), rest)
      else if c = '[' then
        if maxDepth ≤ depth + 1 then none
        else (items? fuel (depth + 1) rest).map fun (items, rest) => (.array items, rest)
      else if c = '\x7b' then
        if maxDepth ≤ depth + 1 then none
        else
          match skipBlanks rest with
          | '\x7d' :: rest => some (.table .inline [], rest)
          | _ => do
            let (entries, rest) ← members? fuel (depth + 1) rest
            return (← inlineTable? entries, rest)
      else if c = '+' ∨ c = '-' ∨ c.isDigit then numeric? cs
      else if c = 't' then
        if rest.take 3 = ['r', 'u', 'e'] then some (.boolean true, rest.drop 3) else none
      else if c = 'f' then
        if rest.take 4 = ['a', 'l', 's', 'e'] then some (.boolean false, rest.drop 4) else none
      else (special? cs).map fun (x, rest) => (.float x, rest)

/-- The items of an array, from after its opening or a comma. -/
def items? : (fuel : Nat) → (depth : Nat) → Reader (List Value)
  | 0, _, _ => none
  | fuel + 1, depth, cs =>
    match skipLines cs.length cs with
    | ']' :: rest => some ([], rest)
    | cs =>
      match value? fuel depth cs with
      | none => none
      | some (item, rest) =>
        match skipLines rest.length rest with
        | ']' :: rest => some ([item], rest)
        | ',' :: rest => (items? fuel depth rest).map fun (items, rest) => (item :: items, rest)
        | _ => none

/-- The entries of a table within a value, at least one. -/
def members? : (fuel : Nat) → (depth : Nat) → Reader (List ((List String × String) × Value))
  | 0, _, _ => none
  | fuel + 1, depth, cs =>
    match key? cs with
    | some (key, '=' :: rest) =>
      match value? fuel depth (skipBlanks rest) with
      | none => none
      | some (v, rest) =>
        match skipBlanks rest with
        | '\x7d' :: rest => some ([(key, v)], rest)
        | ',' :: rest => (members? fuel depth rest).map fun (more, rest) => ((key, v) :: more, rest)
        | _ => none
    | _ => none

end

/-- The state of reading: the document so far, and the path of the open table. -/
structure State where
  root : Entries
  openPath : List String
  deriving Inhabited

/-- A line that opens a table, or one more table in a list. -/
def header? (s : State) (isItem : Bool) (cs : List Char) : Option (State × List Char) := do
  let ((path, name), rest) ← key? cs
  let rest ← match isItem, rest with
    | true, ']' :: ']' :: rest => some rest
    | false, ']' :: rest => some rest
    | _, _ => none
  let rest ← endLine? rest
  let root ← if isItem then s.root.openItem? path name else s.root.openTable? path name
  return (⟨root, path ++ [name]⟩, rest)

/-- A line that adds an entry to the open table. -/
def assignment? (s : State) (cs : List Char) : Option (State × List Char) := do
  let ((path, name), rest) ← key? cs
  match rest with
  | '=' :: rest =>
    let (v, rest) ← value? (rest.length + 1) 0 (skipBlanks rest)
    let rest ← endLine? rest
    let root ← s.root.within? (fun es => es.addDotted? name v path) s.openPath
    return ({ s with root }, rest)
  | _ => none

/-- Reads the lines of a document. -/
def lines? : (fuel : Nat) → State → List Char → Option Entries
  | 0, _, _ => none
  | fuel + 1, s, cs =>
    match skipBlanks cs with
    | [] => some s.root
    | '#' :: rest => (endLine? ('#' :: rest)).bind (lines? fuel s)
    | '\n' :: rest => lines? fuel s rest
    | '\r' :: '\n' :: rest => lines? fuel s rest
    | '[' :: '[' :: rest => (header? s true rest).bind fun (s, rest) => lines? fuel s rest
    | '[' :: rest => (header? s false rest).bind fun (s, rest) => lines? fuel s rest
    | cs => (assignment? s cs).bind fun (s, rest) => lines? fuel s rest

/-- The mark that may stand at the start of a document. -/
def byteOrderMark : Char := '\ufeff'

/-- Reads a document. -/
def parse? (text : String) : Option Entries :=
  let cs := text.toList
  let cs := if cs.head? = some byteOrderMark then cs.tail else cs
  lines? (cs.length + 1) ⟨[], []⟩ cs

end SignerTrust.Toml
