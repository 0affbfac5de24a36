/-!
# Addresses of requests

A request goes to an address: a scheme with an authority and a path, an authority alone, a path
alone, or an asterisk.  An address is printed with its scheme in lower case where that is a known
one, with a slash for a missing path, and without a fragment.
-/

namespace SignerTrust

/-- The address of a request. -/
structure Uri where
  scheme : Option String
  authority : String
  path : String
  query : Option String
  deriving DecidableEq, Repr

namespace Uri

/-- The greatest number of bytes of an address, and of a scheme. -/
def maxLength : Nat := 65534
def maxSchemeLength : Nat := 64

/-- Whether a character may stand in a scheme. -/
def isSchemeChar (c : Char) : Bool :=
  c.isAlphanum || c = '+' || c = '-' || c = '.' || c = '~'

/-- Whether a character may stand in an authority, percent signs aside. -/
def isAuthorityChar (c : Char) : Bool :=
  c.isAlphanum || "!$&'()*+,-.:;=@[]_~".toList.contains c

/-- Whether a character ends an authority. -/
def endsAuthority (c : Char) : Bool :=
  c = '/' || c = '?' || c = '#'

/-- Whether a character may stand in a path. -/
def isPathChar (c : Char) : Bool :=
  let n := c.toNat
  n = 0x21 || n = 0x22 || (0x24 ≤ n && n ≤ 0x3b) || n = 0x3d || (0x40 ≤ n && n ≤ 0x5f)
    || (0x61 ≤ n && n ≤ 0x7e) || 0x80 ≤ n

/-- Whether a character may stand in a query. -/
def isQueryChar (c : Char) : Bool :=
  let n := c.toNat
  n = 0x21 || (0x24 ≤ n && n ≤ 0x3b) || n = 0x3d || (0x3f ≤ n && n ≤ 0x7e) || 0x80 ≤ n

/-- What has been seen of an authority. -/
structure Scan where
  colons : Nat := 0
  opened : Bool := false
  closed : Bool := false
  percent : Bool := false
  endsWithAt : Bool := false
  deriving Repr

/-- The greatest number of colons: seven within brackets and one before the port. -/
def maxColons : Nat := 8

/-- Sees one more character of an authority.  What precedes an at sign or stands within brackets is
no host, so that the count of colons and the percent signs there are forgotten. -/
def Scan.step? (s : Scan) (c : Char) : Option Scan :=
  let s := { s with endsWithAt := c = '@' }
  if c = '%' then some { s with percent := true }
  else if !isAuthorityChar c then none
  else if c = ':' then
    if maxColons ≤ s.colons then none else some { s with colons := s.colons + 1 }
  else if c = '[' then
    if s.percent || s.opened then none else some { s with opened := true }
  else if c = ']' then
    if !s.opened || s.closed then none
    else some { s with closed := true, colons := 0, percent := false }
  else if c = '@' then some { s with colons := 0, percent := false }
  else some s

/-- Whether an authority may end here. -/
def Scan.isComplete (s : Scan) : Bool :=
  s.opened = s.closed && s.colons ≤ 1 && !s.endsWithAt && !s.percent

/-- Splits an authority, which may be empty, from what follows. -/
def authority? (cs : List Char) : Option (List Char × List Char) :=
  let authority := cs.takeWhile fun c => !endsAuthority c
  match authority.foldlM Scan.step? {} with
  | some s => if s.isComplete then some (authority, cs.drop authority.length) else none
  | none => none

/-- Reads a path and a query; a fragment is dropped. -/
def pathQuery? (cs : List Char) : Option (String × Option String) :=
  let path := cs.takeWhile fun c => c ≠ '?' && c ≠ '#'
  if !path.all isPathChar then none
  else match cs.drop path.length with
    | '?' :: rest =>
      let query := rest.takeWhile (· ≠ '#')
      if query.all isQueryChar then some (String.ofList path, some (String.ofList query)) else none
    | _ => some (String.ofList path, none)

/-- The text after a known scheme, whose letters may be of either case. -/
def knownScheme? (cs : List Char) : Option (String × List Char) :=
  ["http", "https"].findSome? fun scheme =>
    let start := scheme.toList ++ [':', '/', '/']
    if (cs.take start.length).map Char.toLower = start then some (scheme, cs.drop start.length)
    else none

/-- A scheme and the text after it, if the text starts with one; a long one is refused. -/
def scheme? (cs : List Char) : Option (Option String × List Char) :=
  match knownScheme? cs with
  | some (scheme, rest) => some (some scheme, rest)
  | none =>
    let scheme := cs.takeWhile isSchemeChar
    match cs.drop scheme.length with
    | ':' :: '/' :: '/' :: rest =>
      if cs.length ≤ 3 then some (none, cs)
      else if maxSchemeLength < scheme.length then none
      else some (some (String.ofList scheme), rest)
    | _ => some (none, cs)

/-- Reads an address that does not start with a slash. -/
def full? (cs : List Char) : Option Uri := do
  let (scheme, rest) ← scheme? cs
  let (authority, rest) ← authority? rest
  match scheme with
  | none => if rest.isEmpty then return ⟨none, String.ofList authority, "", none⟩ else none
  | some scheme =>
    if authority.isEmpty then none
    else
      let (path, query) ← pathQuery? rest
      return ⟨some scheme, String.ofList authority, path, query⟩

/-- Reads an address. -/
def parse? (text : String) : Option Uri :=
  if maxLength < text.utf8ByteSize then none
  else match text.toList with
    | [] => none
    | ['*'] => some ⟨none, "", "*", none⟩
    | '/' :: cs => (pathQuery? ('/' :: cs)).map fun (path, query) => ⟨none, "", path, query⟩
    | cs => full? cs

/-- The text of an address. -/
def text (u : Uri) : String :=
  let scheme := (u.scheme.map (· ++ "://")).getD ""
  let path := if u.scheme.isSome && u.path.isEmpty then "/" else u.path
  let query := (u.query.map ("?" ++ ·)).getD ""
  scheme ++ u.authority ++ path ++ query

end Uri

end SignerTrust
