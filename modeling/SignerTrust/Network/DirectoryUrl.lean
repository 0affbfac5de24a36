import SignerTrust.Network.Ipv6
import SignerTrust.Text.Utf8

/-!
# Addresses of directory entries

An entry is named by a link with a host, the percent-encoded name of the entry for its path, and a
list of attributes for its query, of which the first counts.  Blanks around the link and line breaks
within it are dropped, and dots in the path lead up as they do in other links.
-/

namespace SignerTrust

/-- The two schemes of directories. -/
inductive DirectoryScheme
  | plain
  | secured
  deriving DecidableEq, Repr

namespace DirectoryScheme

/-- The name of a scheme. -/
def name : DirectoryScheme → String
  | plain => "ldap"
  | secured => "ldaps"

/-- The port of a scheme. -/
def port : DirectoryScheme → Nat
  | plain => 389
  | secured => 636

end DirectoryScheme

/-- Where an entry is found, and the attribute asked for, if one is named. -/
structure DirectoryUrl where
  scheme : DirectoryScheme
  host : String
  port : Nat
  entryName : String
  attributeName : Option String
  deriving DecidableEq, Repr

namespace DirectoryUrl

/-- The server that has the entry. -/
def server (u : DirectoryUrl) : String :=
  u.scheme.name ++ "://" ++ u.host ++ ":" ++ toString u.port

/-- Turns pairs of hexadecimal digits after a percent sign into bytes; any other percent sign stands
for itself. -/
def percentDecode : Bytes → Bytes
  | c :: hi :: lo :: rest =>
    match Bytes.hexValue? (Char.ofNat hi.toNat), Bytes.hexValue? (Char.ofNat lo.toNat) with
    | some h, some l =>
      if c = 0x25 then UInt8.ofNat (h * 16 + l) :: percentDecode rest
      else c :: percentDecode (hi :: lo :: rest)
    | _, _ => c :: percentDecode (hi :: lo :: rest)
  | c :: rest => c :: percentDecode rest
  | [] => []

/-- The text that a percent-encoded text stands for. -/
def decodeText? (cs : List Char) : Option String :=
  Utf8.decode? (percentDecode (Utf8.encodeChars cs))

/-- Whether a character is dropped from the ends of a link. -/
def isEdgeBlank (c : Char) : Bool :=
  c ≤ ' '

/-- Whether a character is dropped wherever it stands. -/
def isBreak (c : Char) : Bool :=
  c = '\t' || c = '\n' || c = '\r'

/-- The characters of a link that count. -/
def significant (url : String) : List Char :=
  let trimmed := ((url.toList.dropWhile isEdgeBlank).reverse.dropWhile isEdgeBlank).reverse
  trimmed.filter fun c => !isBreak c

/-- The scheme at the front, of either case, and what follows its two slashes. -/
def scheme? (cs : List Char) : Option (DirectoryScheme × List Char) :=
  [DirectoryScheme.plain, .secured].findSome? fun scheme =>
    let start := scheme.name.toList ++ [':', '/', '/']
    if (cs.take start.length).map Char.toLower = start then some (scheme, cs.drop start.length)
    else none

/-- Whether a character ends the part with the host. -/
def endsAuthority (c : Char) : Bool :=
  c = '/' || c = '?' || c = '#'

/-- What follows the last at sign before the path: a user's name and password do not count. -/
def dropUser (cs : List Char) : List Char :=
  let authority := cs.takeWhile fun c => !endsAuthority c
  let after := (authority.reverse.takeWhile (· ≠ '@')).reverse
  after ++ cs.drop authority.length

/-- Splits the host from what follows it; a colon within brackets belongs to the host. -/
def splitHost : (inBrackets : Bool) → List Char → List Char × List Char
  | _, [] => ([], [])
  | inBrackets, c :: cs =>
    if endsAuthority c || (c = ':' && !inBrackets) then ([], c :: cs)
    else
      let (host, rest) := splitHost ((inBrackets || c = '[') && c ≠ ']') cs
      (c :: host, rest)

/-- The characters that no host may have. -/
def hostForbidden : List Char :=
  ['\x00', '\t', '\n', '\r', ' ', '#', '/', ':', '<', '>', '?', '@', '[', '\\', ']', '^', '|']

/-- A byte as a percent sign and two digits. -/
def percentByte (b : UInt8) : List Char :=
  '%' :: (Bytes.hexPair b).map Char.toUpper

/-- A character of a host as it is shown: controls and letters beyond ASCII are percent-encoded. -/
def hostChar (c : Char) : List Char :=
  if ' ' ≤ c ∧ c < '\x7f' then [c] else (Utf8.encodeChar c).flatMap percentByte

/-- The text of a host: a name, or an address in brackets. -/
def host? (cs : List Char) : Option String :=
  match cs with
  | [] => none
  | '[' :: rest =>
    if rest.getLast? = some ']' then
      (Ipv6.parse? rest.dropLast).map fun groups => "[" ++ Ipv6.text groups ++ "]"
    else none
  | cs =>
    if cs.any hostForbidden.contains then none else some (String.ofList (cs.flatMap hostChar))

/-- The greatest port. -/
def maxPort : Nat := 65535

/-- The port after a colon, if digits stand there, and what follows. -/
def port? (cs : List Char) : Option (Option Nat × List Char) :=
  match cs with
  | ':' :: cs =>
    let digits := cs.takeWhile Char.isDigit
    let n := digits.foldl (fun n c => n * 10 + (c.toNat - '0'.toNat)) 0
    let rest := cs.drop digits.length
    if maxPort < n ∨ rest.head?.any (fun c => !(endsAuthority c || c = '\\')) then none
    else some (if digits.isEmpty then none else some n, rest)
  | cs => some (none, cs)

/-- Splits a text at each slash. -/
def splitSlashes : List Char → List (List Char)
  | [] => [[]]
  | c :: cs =>
    match splitSlashes cs with
    | [] => [[c]]
    | part :: parts => if c = '/' then [] :: part :: parts else (c :: part) :: parts

/-- The spellings of a dot. -/
def dots : List (List Char) :=
  [['.'], ['%', '2', 'e']]

/-- Whether a segment stands for the place itself. -/
def isDot (segment : List Char) : Bool :=
  dots.contains (segment.map Char.toLower)

/-- Whether a segment leads up. -/
def isDoubleDot (segment : List Char) : Bool :=
  dots.any fun a => dots.any fun b => segment.map Char.toLower = a ++ b

/-- Whether a segment names a drive, above which no path leads. -/
def isDrive : List Char → Bool
  | [letter, sign] => letter.isAlpha && (sign = ':' || sign = '|')
  | letter :: sign :: '\\' :: _ => letter.isAlpha && (sign = ':' || sign = '|')
  | _ => false

/-- Leaves out the last of the segments, which are held in reverse. -/
def leaveLast : List (List Char) → List (List Char)
  | [] => []
  | segment :: rest => if isDrive segment then segment :: rest else rest

/-- Follows the dots among segments; `done` holds the segments so far in reverse.  Dots at the end
leave an empty segment. -/
def followDots : (done : List (List Char)) → List (List Char) → List (List Char)
  | done, [] => done.reverse
  | done, segment :: rest =>
    let ending : List (List Char) → List (List Char) :=
      fun done => if rest.isEmpty then [] :: done else done
    if isDoubleDot segment then followDots (ending (leaveLast done)) rest
    else if isDot segment then followDots (ending done) rest
    else followDots (segment :: done) rest

/-- The name of the entry that a path stands for: slashes at its front do not count. -/
def entryName? (path : List Char) : Option String :=
  let path := match path with
    | '/' :: rest => rest
    | path => path
  let segments := (followDots [] (splitSlashes path)).dropWhile List.isEmpty
  decodeText? (['/'].intercalate segments)

/-- The first attribute of a query; the inner answer is missing if it is empty. -/
def attributeName? (query : List Char) : Option (Option String) :=
  (decodeText? (query.takeWhile fun c => c ≠ '?' && c ≠ ',')).map fun name =>
    if name.isEmpty then none else some name

/-- Reads a link to an entry. -/
def parse? (url : String) : Option DirectoryUrl := do
  let (scheme, rest) ← scheme? (significant url)
  let (host, rest) := splitHost false (dropUser rest)
  let host ← host? host
  let (port, rest) ← port? rest
  let resource := rest.takeWhile (· ≠ '#')
  let path := resource.takeWhile (· ≠ '?')
  let entryName ← entryName? path
  let attributeName ← match resource.drop path.length with
    | _ :: query => attributeName? query
    | [] => some none
  return { scheme, host, port := port.getD scheme.port, entryName, attributeName }

end DirectoryUrl

end SignerTrust
