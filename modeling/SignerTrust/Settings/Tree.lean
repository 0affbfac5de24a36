import SignerTrust.Decimal.Shortest
import SignerTrust.Text.Lower

/-!
# Settings as a tree

A document of settings is a tree of values whose types are loose: a number may stand for a truth
value, a text for a number.  Documents are laid over one another: tables are merged, and any other
value replaces what was there.  The names of entries are kept in lower case.
-/

namespace SignerTrust

/-- A tree of settings. -/
inductive SettingTree
  | absent
  | flag (b : Bool)
  | integer (n : Int)
  | float (x : Binary64)
  | text (s : String)
  | list (items : List SettingTree)
  | table (entries : List (String × SettingTree))
  deriving Inhabited

namespace SettingTree

/-- The words that stand for a truth value. -/
def trueWords : List String := ["true", "on", "yes"]
def falseWords : List String := ["false", "off", "no"]

/-- Reads a value as a truth value. -/
def flag? : SettingTree → Option Bool
  | flag b => some b
  | integer n => some (n ≠ 0)
  | float x => some (!x.isZero)
  | text s =>
    let s := Lower.text s
    if s = "1" || trueWords.contains s then some true
    else if s = "0" || falseWords.contains s then some false
    else none
  | _ => none

/-- A word of 64 bits, if the number is one. -/
def wordOf? (n : Int) : Option UInt64 :=
  if 0 ≤ n ∧ n < UInt64.size then some (UInt64.ofNat n.toNat) else none

/-- Reads decimal digits, which a plus sign may precede. -/
def digits? (cs : List Char) : Option UInt64 :=
  let ds := match cs with
    | '+' :: ds => ds
    | ds => ds
  if ds.isEmpty || !ds.all Char.isDigit then none
  else wordOf? (ds.foldl (fun n c => n * 10 + (c.toNat - '0'.toNat : Nat)) (0 : Int))

/-- Reads a value as a word. -/
def word? : SettingTree → Option UInt64
  | flag b => some (if b then 1 else 0)
  | integer n => wordOf? n
  | float x => some x.toWord
  | text s =>
    let t := Lower.text s
    if trueWords.contains t then some 1
    else if falseWords.contains t then some 0
    else digits? s.toList
  | _ => none

/-- Reads a value as a text. -/
def text? : SettingTree → Option String
  | flag b => some (if b then "true" else "false")
  | integer n => some (toString n)
  | float x => some x.text
  | text s => some s
  | _ => none

/-- Reads a value that may be absent. -/
def optional? {α : Type} (read? : SettingTree → Option α) : SettingTree → Option (Option α)
  | absent => some none
  | t => (read? t).map some

/-- Reads a list. -/
def list? {α : Type} (read? : SettingTree → Option α) : SettingTree → Option (List α)
  | list items => items.mapM read?
  | _ => none

/-- The entries of a table; any other tree has none. -/
def entries : SettingTree → List (String × SettingTree)
  | table es => es
  | _ => []

/-- Changes the entry of a name, or adds it. -/
def alter (name : String) (f : Option SettingTree → SettingTree) :
    List (String × SettingTree) → List (String × SettingTree)
  | [] => [(name, f none)]
  | (k, v) :: rest => if k = name then (k, f (some v)) :: rest else (k, v) :: alter name f rest

/-- Changes the entry of a name; what is no table becomes one. -/
def update (t : SettingTree) (name : String) (f : Option SettingTree → SettingTree) : SettingTree :=
  table (alter (Lower.text name) f t.entries)

mutual

/-- Lays a value over the entry of a name. -/
def put (t : SettingTree) (name : String) : SettingTree → SettingTree
  | table es => t.update name fun old => putAll (old.getD (table [])) es
  | v => t.update name fun _ => v

/-- Lays entries over a tree; a tree that is no table is only replaced if there are any. -/
def putAll (t : SettingTree) : List (String × SettingTree) → SettingTree
  | [] => t
  | (name, v) :: rest => putAll (put t name v) rest

end

end SettingTree

end SignerTrust
