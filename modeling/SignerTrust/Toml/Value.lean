import SignerTrust.Decimal.Binary64

/-!
# TOML values and tables

A document is a table.  Tables arise in three ways: a header opens one, a header below passes
through one, and a dotted key makes one.  Which of them may still be added to depends on how a
table arose; a table within a value is closed.
-/

namespace SignerTrust.Toml

/-- How a table arose. -/
inductive Origin
  | header
  | passedThrough
  | dottedKey
  | inline
  deriving DecidableEq, Repr

/-- A value of a document. -/
inductive Value
  | string (s : String)
  | integer (n : Int)
  | float (x : Binary64)
  | boolean (b : Bool)
  | moment (text : String)
  | array (items : List Value)
  | table (origin : Origin) (entries : List (String × Value))
  | tables (items : List (List (String × Value)))
  deriving Inhabited

/-- The entries of a table in the order in which they were written. -/
abbrev Entries := List (String × Value)

namespace Entries

/-- Changes the entry of a name, or adds it, unless the change is refused. -/
def alter? (name : String) (f : Option Value → Option Value) : Entries → Option Entries
  | [] => (f none).map fun v => [(name, v)]
  | (k, v) :: rest =>
    if k = name then (f (some v)).map fun v => (k, v) :: rest
    else (alter? name f rest).map ((k, v) :: ·)

/-- Adds an entry whose name is new. -/
def add? (es : Entries) (name : String) (v : Value) : Option Entries :=
  es.alter? name fun
    | none => some v
    | some _ => none

/-- Changes the last of a list. -/
def updateLast? {α : Type} (f : α → Option α) : List α → Option (List α)
  | [] => none
  | [x] => (f x).map ([·])
  | x :: y :: rest => (updateLast? f (y :: rest)).map (x :: ·)

/-- Adds an entry at a dotted key, whose last name is `name`.  Only tables that were made by dotted
keys may be added to; tables that headers pass through may be passed through. -/
def addDotted? (es : Entries) (name : String) (v : Value) : (path : List String) → Option Entries
  | [] => es.add? name v
  | step :: rest => es.alter? step fun
    | none => (addDotted? [] name v rest).map (.table .dottedKey)
    | some (.table .dottedKey inner) => (addDotted? inner name v rest).map (.table .dottedKey)
    | some (.table .passedThrough inner) =>
      if rest.isEmpty then none
      else (addDotted? inner name v rest).map (.table .passedThrough)
    | some (.tables items) =>
      if rest.isEmpty then none
      else (updateLast? (fun inner => addDotted? inner name v rest) items).map .tables
    | some _ => none

/-- Changes the table that a header's path leads to: through tables, and through the last one of a
list of tables.  Missing tables are made on the way. -/
def within? (f : Entries → Option Entries) (es : Entries) : (path : List String) → Option Entries
  | [] => f es
  | step :: rest => es.alter? step fun
    | none => (within? f [] rest).map (.table .passedThrough)
    | some (.table .inline _) => none
    | some (.table origin inner) => (within? f inner rest).map (.table origin)
    | some (.tables items) => (updateLast? (fun inner => within? f inner rest) items).map .tables
    | some _ => none

/-- Opens the table of a header; one that headers only passed through may be opened once. -/
def openTable? (es : Entries) (path : List String) (name : String) : Option Entries :=
  es.within? (fun parent => parent.alter? name fun
    | none => some (.table .header [])
    | some (.table .passedThrough inner) => some (.table .header inner)
    | some _ => none) path

/-- Opens one more table in the list of a header. -/
def openItem? (es : Entries) (path : List String) (name : String) : Option Entries :=
  es.within? (fun parent => parent.alter? name fun
    | none => some (.tables [[]])
    | some (.tables items) => some (.tables (items ++ [[]]))
    | some _ => none) path

end Entries

end SignerTrust.Toml
