import SignerTrust.Certificate.GeneralName
import SignerTrust.Certificate.Basic
import SignerTrust.Text.Wide

/-!
# Texts in extensions

Authorities write the holder's data as character strings, each in an extension of its own or in an
alternative name, often wrapped in octet strings.  At most three wrappings are opened.
-/

namespace SignerTrust

/-- The text of a character string of universal tag `tag`. -/
def taggedText? (tag : Nat) (content : Bytes) : Option String :=
  if tag = Der.Tag.utf8String ∨ tag = Der.Tag.printableString ∨ tag = Der.Tag.ia5String
      ∨ tag = Der.Tag.visibleString ∨ tag = Der.Tag.numericString then
    Utf8.decode? content
  else if tag = Der.Tag.teletexString then some (Bytes.latin1 content)
  else if tag = Der.Tag.bmpString then Wide.decode16? content
  else if tag = Der.Tag.universalString then Wide.decode32? content
  else none

/-- How many elements may stand around and including a character string. -/
def maxTextDepth : Nat := 4

/-- The text of a character string under fewer than `depth` octet strings. -/
def wrappedText? : (depth : Nat) → Bytes → Option String
  | 0, _ => none
  | depth + 1, bytes => do
    let (e, _) ← Der.Element.read? bytes
    if e.tagClass ≠ .universal then none
    else if e.tag = Der.Tag.octetString then wrappedText? depth e.content
    else taggedText? e.tag e.content

/-- The text that a value holds. -/
def decodeText? (value : Bytes) : Option String :=
  wrappedText? maxTextDepth value

/-- The text of the first extension of a name. -/
def Certificate.extensionText? (c : Certificate) (name : String) : Option String := do
  let e ← c.extensions.find? fun e => e.name.dotted = name
  decodeText? e.value

/-- The text of a name of the other kind `kind`. -/
def GeneralName.otherText? (kind : String) : GeneralName → Option String
  | .otherName id value => do
    if id.dotted ≠ kind then none
    else
      let (e, _) ← Der.Element.read? value
      if e.tagClass = .contextSpecific ∧ e.tag = 0 then decodeText? e.content else none
  | _ => none

end SignerTrust
