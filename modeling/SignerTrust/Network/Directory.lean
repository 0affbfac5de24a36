import SignerTrust.Network.DirectoryUrl
import SignerTrust.Network.Inquiry

/-!
# Directories

Reading a value from a directory takes two requests: the client binds without a name, and then
searches one entry for one attribute.  It stops at the first request that is not granted.  The
values of an entry are sorted into textual and binary ones before one is chosen.  Entries are looked
at one after the other, and the reading breaks off at one whose names are no texts.  Taking leave of
the server is no request: nothing depends on it.
-/

namespace SignerTrust

/-- How much of the tree below an entry a search looks at. -/
inductive SearchScope
  | entry
  | children
  | subtree
  deriving DecidableEq, Repr

/-- The number of a scope. -/
def SearchScope.code : SearchScope → Nat
  | entry => 0
  | children => 1
  | subtree => 2

/-- A request to a directory. -/
inductive DirectoryRequest
  | bind (user password : String)
  | search (entryName : String) (scope : SearchScope) (presence attributeName : String)
  deriving DecidableEq, Repr

/-- What a server does about a request; one that it leaves midway is not answered. -/
inductive Reaction (α : Type)
  | answer (a : α)
  | silence
  | hangUp
  deriving DecidableEq, Repr

/-- Attributes, each with its values. -/
abbrev Attributes := List (String × List Bytes)

/-- An entry as the server sends it.  Nothing says that its names are texts. -/
structure SentEntry where
  name : Bytes
  attributes : List (Bytes × List Bytes)
  deriving DecidableEq, Repr

/-- Takes the names of an entry for texts, if all of them are. -/
def SentEntry.attributes? (entry : SentEntry) : Option Attributes := do
  let _ ← Utf8.decode? entry.name
  entry.attributes.mapM fun (name, values) => (Utf8.decode? name).map fun name => (name, values)

/-- How a directory behaves.  Requests are answered by a code, of which zero grants the request, and
a search also by entries.  A server that is not prompt lets the time for connecting run out. -/
structure DirectoryServer where
  isReachable : Bool
  bind : Reaction Nat
  search : Reaction (List SentEntry × Nat)
  isPrompt : Bool := true
  deriving Repr

/-- The order in which a client goes through the attributes that it keeps in a table. -/
structure TableOrder where
  arrange : Attributes → Attributes
  perm : ∀ attributes, (arrange attributes).Perm attributes

/-- The order in which the attributes came. -/
def TableOrder.asSent : TableOrder :=
  ⟨id, fun _ => .refl _⟩

/-- An entry as the client keeps it: an attribute is binary if one of its values is no text. -/
structure SortedEntry where
  textual : Attributes
  binary : Attributes
  deriving DecidableEq, Repr

namespace SortedEntry

/-- Puts the values of an attribute in place of those it had. -/
def replace (name : String) (values : List Bytes) : Attributes → Attributes
  | [] => [(name, values)]
  | (n, vs) :: rest => if n = name then (n, values) :: rest else (n, vs) :: replace name values rest

/-- Adds values to those that an attribute has. -/
def append (name : String) (values : List Bytes) : Attributes → Attributes
  | [] => [(name, values)]
  | (n, vs) :: rest =>
    if n = name then (n, vs ++ values) :: rest else (n, vs) :: append name values rest

/-- Adds an attribute.  Values that are no texts come before the texts. -/
def add (e : SortedEntry) (name : String) (values : List Bytes) : SortedEntry :=
  let (texts, others) := values.partition Utf8.isText
  if others.isEmpty then { e with textual := replace name values e.textual }
  else { e with binary := append name (others ++ texts) e.binary }

/-- Sorts the attributes of an entry. -/
def ofSent (sent : Attributes) : SortedEntry :=
  sent.foldl (fun e (name, values) => e.add name values) ⟨[], []⟩

/-- The characters of a name in the lower case of ASCII. -/
def folded (name : String) : List Char :=
  name.toList.map Char.toLower

/-- The name of an attribute without its options. -/
def baseName (name : List Char) : List Char :=
  name.takeWhile (· ≠ ';')

/-- Whether an attribute is the one asked for, whatever its options. -/
def isNamed (wanted name : String) : Bool :=
  folded name = folded wanted || baseName (folded name) = baseName (folded wanted)

/-- The first value of the first attribute of a name. -/
def firstValue? (wanted : String) (attributes : Attributes) : Option Bytes :=
  (attributes.find? fun (name, _) => isNamed wanted name).bind fun (_, values) => values.head?

/-- The value of an attribute: a binary one if there is one, else a textual one. -/
def value? (order : TableOrder) (e : SortedEntry) (wanted : String) : Option Bytes :=
  (firstValue? wanted (order.arrange e.binary)).or (firstValue? wanted (order.arrange e.textual))

end SortedEntry

namespace DirectoryServer

/-- The filter of a search, which every entry passes. -/
def everyEntry : String := "objectClass"

/-- What the client makes of the server's reaction to a request. -/
def outcome {α : Type} (url : String) : Reaction α → Except DirectoryError α
  | .answer a => .ok a
  | .silence => .error (.timeout url)
  | .hangUp => .error .failed

/-- Succeeds if a request was granted. -/
def granted (code : Nat) : Except DirectoryError Unit :=
  if code = 0 then .ok () else .error .failed

/-- The value in the first entry that has one.  Entries after it are not looked at. -/
def firstValue? (order : TableOrder) (wanted : String) : List SentEntry → Option (Option Bytes)
  | [] => some none
  | entry :: entries => do
    match (SortedEntry.ofSent (← entry.attributes?)).value? order wanted with
    | some value => return some value
    | none => firstValue? order wanted entries

/-- What the client hands back of what it found; an empty value is none. -/
def choose (url wanted : String) : Option Bytes → Except DirectoryError Bytes
  | some (b :: bs) => .ok (b :: bs)
  | _ => .error (.noValue url wanted)

/-- The entries that a search brings. -/
def entries (s : DirectoryServer) (url : String) : Except DirectoryError (List SentEntry) := do
  let (entries, code) ← outcome url s.search
  granted code
  return entries

/-- Searches an entry for an attribute, unless that breaks off. -/
def find (order : TableOrder) (s : DirectoryServer) (url wanted : String) :
    Option (Except DirectoryError Bytes) :=
  match s.entries url with
  | .error e => some (.error e)
  | .ok entries => (firstValue? order wanted entries).map (choose url wanted)

/-- Reads the value of an attribute, unless that breaks off, and hands back the requests that the
server saw.  An attribute in the link comes before the one given. -/
def read (s : DirectoryServer) (url attributeName : String) (order : TableOrder := .asSent) :
    Option (Except DirectoryError Bytes) × List DirectoryRequest :=
  match DirectoryUrl.parse? url with
  | none => (some (.error (.invalidUrl url)), [])
  | some target =>
    let wanted := target.attributeName.getD attributeName
    let bind := DirectoryRequest.bind "" ""
    if !s.isReachable then (some (.error .failed), [])
    else if !s.isPrompt then (some (.error (.timeout url)), [])
    else match outcome url s.bind >>= granted with
      | .error e => (some (.error e), [bind])
      | .ok () =>
        (s.find order url wanted, [bind, .search target.entryName .entry everyEntry wanted])

end DirectoryServer

end SignerTrust
