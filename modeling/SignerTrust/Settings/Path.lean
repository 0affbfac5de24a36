import SignerTrust.Settings.Tree

/-!
# Paths to settings

The names at the top of a document may be paths: names joined by points, and positions in lists
between brackets.  Whatever stands in the way of a path becomes a table or a list.
-/

namespace SignerTrust

/-- A step of a path after its first name. -/
inductive PathStep
  | child (name : String)
  | item (position : Int)
  deriving DecidableEq, Repr

/-- A path to a setting. -/
structure SettingPath where
  head : String
  steps : List PathStep
  deriving DecidableEq, Repr

namespace SettingPath

/-- Whether a character may occur in a name of a path. -/
def isNameChar (c : Char) : Bool :=
  ('a' ≤ c && c ≤ 'z') || ('A' ≤ c && c ≤ 'Z') || c.isDigit || c = '_' || c = '-'

/-- A name of at least one character. -/
def name? (cs : List Char) : Option (String × List Char) :=
  match cs.takeWhile isNameChar with
  | [] => none
  | c :: name => some (String.ofList (c :: name), cs.dropWhile isNameChar)

/-- A position: digits, which a minus sign may precede. -/
def position? (cs : List Char) : Option (Int × List Char) :=
  let (negative, cs) := match cs with
    | '-' :: cs => (true, cs)
    | cs => (false, cs)
  match cs.takeWhile Char.isDigit with
  | [] => none
  | d :: ds =>
    let n := (d :: ds).foldl (fun n c => n * 10 + (c.toNat - '0'.toNat)) 0
    if n < 0x8000000000000000 then
      some (if negative then -(n : Int) else n, cs.dropWhile Char.isDigit)
    else none

/-- The steps that a text names. -/
def steps? : (fuel : Nat) → List Char → Option (List PathStep)
  | _, [] => some []
  | fuel + 1, '.' :: cs => do
    let (name, rest) ← name? cs
    return .child name :: (← steps? fuel rest)
  | fuel + 1, '[' :: cs => do
    let (position, rest) ← position? cs
    match rest with
    | ']' :: rest => return .item position :: (← steps? fuel rest)
    | _ => none
  | _, _ => none

/-- Reads a path; a text that is none is a single name. -/
def ofText (text : String) : SettingPath :=
  let cs := text.toList
  match name? cs with
  | none => ⟨text, []⟩
  | some (head, rest) =>
    match steps? rest.length rest with
    | some steps => ⟨head, steps⟩
    | none => ⟨text, []⟩

end SettingPath

namespace SettingTree

/-- The items of a list; any other tree has none. -/
def items : SettingTree → List SettingTree
  | list xs => xs
  | _ => []

/-- Changes the item at a position, which counts from the end if it is negative; missing items
before it are absent. -/
def updateItem (t : SettingTree) (position : Int) (f : Option SettingTree → SettingTree) :
    SettingTree :=
  let xs := t.items
  let i := if 0 ≤ position then position.toNat else xs.length - position.natAbs
  let xs := xs ++ List.replicate (i + 1 - xs.length) absent
  list (xs.modify i fun x => f (some x))

mutual

/-- Lays a value over what the steps lead to from the entry of a name. -/
def putAt (t : SettingTree) (name : String) (value : SettingTree) : List PathStep → SettingTree
  | [] => t.put name value
  | .child next :: rest => t.update name fun old => putAt (old.getD absent) next value rest
  | .item i :: rest => t.update name fun old => putItem (old.getD absent) i value rest

/-- Lays a value over what the steps lead to from the item of a list. -/
def putItem (t : SettingTree) (position : Int) (value : SettingTree) : List PathStep → SettingTree
  | [] => t.updateItem position fun _ => value
  | .child next :: rest => t.updateItem position fun old => putAt (old.getD absent) next value rest
  | .item i :: rest => t.updateItem position fun old => putItem (old.getD absent) i value rest

end

/-- Lays a document over a tree. -/
def overlay (t : SettingTree) (document : List (String × SettingTree)) : SettingTree :=
  document.foldl (fun t (name, value) =>
    let path := SettingPath.ofText name
    t.putAt path.head value path.steps) t

end SettingTree

end SignerTrust
