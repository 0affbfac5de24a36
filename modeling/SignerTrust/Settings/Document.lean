import SignerTrust.Json.Number
import SignerTrust.Json.Reader
import SignerTrust.Settings.Path
import SignerTrust.Settings.Record
import SignerTrust.Text.Utf8
import SignerTrust.Toml.Reader

/-!
# Documents of settings

A document in JSON or TOML is laid over given settings: what it does not mention stays as it is.
The format of a file follows from the ending of its name.
-/

namespace SignerTrust

/-- Why settings could not be read or written. -/
inductive SettingsError
  | document
  | unreadable
  | unwritable
  | unsupportedFormat (ending : String)
  deriving DecidableEq, Repr

/-- The text of an error; only that of an unsupported format is fixed. -/
def SettingsError.message? : SettingsError → Option String
  | unsupportedFormat ending => some ("unsupported settings format \"" ++ ending ++ "\"")
  | _ => none

namespace SettingTree

/-- Adds an entry; a later one of the same name replaces it. -/
def assign (es : List (String × SettingTree)) (name : String) (v : SettingTree) :
    List (String × SettingTree) :=
  alter name (fun _ => v) es

mutual

/-- The tree of a JSON value, unless a number is too great or a string is no text. -/
def ofJson? : Json → Option SettingTree
  | .null => some absent
  | .bool b => some (flag b)
  | .number n => n.value?.map fun
    | .integer n =>
      if n < 0x8000000000000000 then .integer n else .float (Binary64.ofNat n.toNat)
    | .float x => .float x
  | .string s => (JsonString.text? s).map text
  | .array items => (ofItems? items).map list
  | .object members => (ofMembers? [] members).map table

/-- The trees of the items of an array. -/
def ofItems? : List Json → Option (List SettingTree)
  | [] => some []
  | j :: rest => do
    let t ← ofJson? j
    return t :: (← ofItems? rest)

/-- The entries of an object; the last of the members of one name counts. -/
def ofMembers? (es : List (String × SettingTree)) :
    List (JsonString × Json) → Option (List (String × SettingTree))
  | [] => some es
  | (key, j) :: rest => do
    let name ← JsonString.text? key
    let t ← ofJson? j
    ofMembers? (assign es name t) rest

end

mutual

/-- The tree of a TOML value. -/
def ofToml : Toml.Value → SettingTree
  | .string s => text s
  | .integer n => integer n
  | .float x => float x
  | .boolean b => flag b
  | .moment t => text t
  | .array items => list (ofTomlItems items)
  | .table _ entries => table (ofTomlEntries entries)
  | .tables items => list (ofTomlTables items)

/-- The trees of the items of an array. -/
def ofTomlItems : List Toml.Value → List SettingTree
  | [] => []
  | v :: rest => ofToml v :: ofTomlItems rest

/-- The entries of a table. -/
def ofTomlEntries : List (String × Toml.Value) → List (String × SettingTree)
  | [] => []
  | (name, v) :: rest => (name, ofToml v) :: ofTomlEntries rest

/-- The trees of a list of tables. -/
def ofTomlTables : List (List (String × Toml.Value)) → List SettingTree
  | [] => []
  | es :: rest => table (ofTomlEntries es) :: ofTomlTables rest

end

/-- How deeply a JSON document may nest. -/
def maxJsonDepth : Nat := 127

/-- The entries of a JSON document, which must be an object. -/
def parseJson? (document : String) : Option (List (String × SettingTree)) := do
  let j ← Json.parse? document
  if maxJsonDepth < j.depth then none
  else match ← ofJson? j with
    | table es => return es
    | _ => none

/-- The entries of a TOML document. -/
def parseToml? (document : String) : Option (List (String × SettingTree)) :=
  (Toml.parse? document).map ofTomlEntries

end SettingTree

namespace Settings

/-- The settings as they are after entries are laid over them. -/
def overlay? (s : Settings) (document : List (String × SettingTree)) : Option Settings := do
  let current ← s.entries?
  ofTree? (((SettingTree.table []).putAll current).overlay document)

/-- Lays a JSON document over settings. -/
def withJson (s : Settings) (document : String) : Except SettingsError Settings :=
  match (SettingTree.parseJson? document).bind s.overlay? with
  | some s => .ok s
  | none => .error .document

/-- Lays a TOML document over settings. -/
def withToml (s : Settings) (document : String) : Except SettingsError Settings :=
  match (SettingTree.parseToml? document).bind s.overlay? with
  | some s => .ok s
  | none => .error .document

/-- The part of a file's name after its last point, if something precedes that point. -/
def ending (file : String) : String :=
  let name := (file.toList.reverse.dropWhile (· = '/')).takeWhile (· ≠ '/')
  match name.span (· ≠ '.') with
  | (after, _ :: _ :: _) => String.ofList after.reverse
  | _ => ""

/-- Lays a file over settings; `contents` is nothing if the file cannot be read. -/
def withFile (s : Settings) (file : String) (contents : Option Bytes) :
    Except SettingsError Settings :=
  let format := Lower.text (ending file)
  if format ≠ "toml" ∧ format ≠ "json" then .error (.unsupportedFormat format)
  else match contents.bind Utf8.decode? with
    | none => .error .unreadable
    | some document => if format = "toml" then s.withToml document else s.withJson document

end Settings

end SignerTrust
