/-!
# JSON values

A value keeps what its text said: members in order with repeated keys, numbers by their digits, and
strings by code points, among which escapes may have put surrogates that pair with nothing.
-/

namespace SignerTrust

/-- A string of code points; surrogates without a partner may occur. -/
abbrev JsonString := List Nat

/-- The text of a string without surrogates. -/
def JsonString.text? (s : JsonString) : Option String :=
  if s.all fun n => decide (Nat.isValidChar n) then some (String.ofList (s.map Char.ofNat))
  else none

/-- The string of a text. -/
def JsonString.ofText (text : String) : JsonString :=
  text.toList.map Char.toNat

/-- A number by its digits: `fraction` and `exponent` are the texts after the point and after
the exponent mark, if there are any. -/
structure JsonNumber where
  negative : Bool
  digits : List Char
  fraction : Option (List Char)
  exponent : Option (Bool × List Char)
  deriving DecidableEq, Repr

/-- A JSON value. -/
inductive Json
  | null
  | bool (b : Bool)
  | number (n : JsonNumber)
  | string (s : JsonString)
  | array (items : List Json)
  | object (members : List (JsonString × Json))
  deriving Inhabited

namespace Json

/-- How deeply arrays and objects nest. -/
def depth : Json → Nat
  | array items => depthItems items + 1
  | object members => depthMembers members + 1
  | _ => 0
where
  depthItems : List Json → Nat
    | [] => 0
    | j :: rest => max (depth j) (depthItems rest)
  depthMembers : List (JsonString × Json) → Nat
    | [] => 0
    | (_, j) :: rest => max (depth j) (depthMembers rest)

/-- Whether the value is `null`. -/
def isNull : Json → Bool
  | null => true
  | _ => false

/-- The text of a string value. -/
def text? : Json → Option String
  | string s => JsonString.text? s
  | _ => none

end Json

end SignerTrust
