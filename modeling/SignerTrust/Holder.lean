import SignerTrust.Certificate.Text
import SignerTrust.Classification

/-!
# Holders

The holder's data are the texts of numbered extensions under the marker of the authority.
-/

namespace SignerTrust

/-- The data that an authority writes about a holder. -/
inductive HolderField
  | cedula
  | givenNames
  | firstSurname
  | secondSurname
  | position
  | institution
  | address
  | phone
  | city
  | companyName
  | ruc
  deriving DecidableEq, Repr

namespace HolderField

/-- All fields, in the order of their numbers. -/
def all : List HolderField :=
  [cedula, givenNames, firstSurname, secondSurname, position, institution, address, phone, city,
    companyName, ruc]

/-- The number of the field under the marker. -/
def number : HolderField → Nat
  | cedula => 1
  | givenNames => 2
  | firstSurname => 3
  | secondSurname => 4
  | position => 5
  | institution => 6
  | address => 7
  | phone => 8
  | city => 9
  | companyName => 10
  | ruc => 11

/-- The name of the field in reports. -/
def name : HolderField → String
  | cedula => "cedula"
  | givenNames => "given_names"
  | firstSurname => "first_surname"
  | secondSurname => "second_surname"
  | position => "position"
  | institution => "institution"
  | address => "address"
  | phone => "phone"
  | city => "city"
  | companyName => "company_name"
  | ruc => "ruc"

/-- The extension that holds the field. -/
def extensionName (p : Profile) (f : HolderField) : String :=
  p.marker ++ "." ++ toString f.number

end HolderField

/-- What a certificate says about its holder. -/
structure HolderDetails where
  ecosystem : Ecosystem
  holderType : HolderType
  cedula : Option String
  givenNames : Option String
  firstSurname : Option String
  secondSurname : Option String
  position : Option String
  institution : Option String
  address : Option String
  phone : Option String
  city : Option String
  companyName : Option String
  ruc : Option String
  deriving DecidableEq, Repr

namespace HolderDetails

/-- The fields with their names, in order. -/
def fields (d : HolderDetails) : List (HolderField × Option String) := [
  (.cedula, d.cedula), (.givenNames, d.givenNames), (.firstSurname, d.firstSurname),
  (.secondSurname, d.secondSurname), (.position, d.position), (.institution, d.institution),
  (.address, d.address), (.phone, d.phone), (.city, d.city), (.companyName, d.companyName),
  (.ruc, d.ruc)]

/-- Given names and surnames as far as they are known, parted by spaces. -/
def fullName (d : HolderDetails) : Option String :=
  match [d.givenNames, d.firstSurname, d.secondSurname].filterMap id with
  | [] => none
  | parts => some (" ".intercalate parts)

end HolderDetails

/-- The holder's data.  An identity number that has no extension is looked up among the
alternative names. -/
def Certificate.holderDetails (c : Certificate) : Except ClassifyError HolderDetails := do
  let (ecosystem, holderType) ← c.classify
  match ecosystem.profile? with
  | none => throw .notRecognized
  | some p =>
    let text f := c.extensionText? (HolderField.extensionName p f)
    let idName := HolderField.extensionName p .cedula
    return {
      ecosystem, holderType
      cedula := (text .cedula).or (c.altNames.findSome? (GeneralName.otherText? idName))
      givenNames := text .givenNames
      firstSurname := text .firstSurname
      secondSurname := text .secondSurname
      position := text .position
      institution := text .institution
      address := text .address
      phone := text .phone
      city := text .city
      companyName := text .companyName
      ruc := text .ruc }

end SignerTrust
