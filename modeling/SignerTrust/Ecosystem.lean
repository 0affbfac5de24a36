/-!
# Certificate ecosystems and their holders

The accredited authorities form four ecosystems; one of them also runs a test authority.  A
certificate is issued to a holder of one of six types.
-/

namespace SignerTrust

/-- The issuing authority of a certificate. -/
inductive Ecosystem
  | bancoCentral
  | bancoCentralTest
  | securityData
  | securityDataLegacy
  | unknown
  deriving DecidableEq, Repr

namespace Ecosystem

/-- The ecosystems that a certificate is recognised for, in the order in which they are tried. -/
def known : List Ecosystem :=
  [bancoCentral, bancoCentralTest, securityData, securityDataLegacy]

/-- All ecosystems. -/
def all : List Ecosystem :=
  known ++ [unknown]

/-- The name used in settings and reports. -/
def name : Ecosystem → String
  | bancoCentral => "banco_central"
  | bancoCentralTest => "banco_central_test"
  | securityData => "security_data"
  | securityDataLegacy => "security_data_legacy"
  | unknown => "unknown"

/-- The name shown to people. -/
def display : Ecosystem → String
  | bancoCentral => "Banco Central del Ecuador"
  | bancoCentralTest => "Banco Central del Ecuador (test)"
  | securityData => "Security Data"
  | securityDataLegacy => "Security Data (legacy)"
  | unknown => "unknown"

/-- The ecosystem of a name. -/
def ofName? (name : String) : Option Ecosystem :=
  all.find? fun e => e.name = name

end Ecosystem

/-- To whom a certificate was issued. -/
inductive HolderType
  | naturalPerson
  | legalPerson
  | publicOfficial
  | legalRepresentative
  | companyMember
  | testSubject
  | unknown
  deriving DecidableEq, Repr

namespace HolderType

/-- All holder types. -/
def all : List HolderType :=
  [naturalPerson, legalPerson, publicOfficial, legalRepresentative, companyMember, testSubject,
    unknown]

/-- The name used in reports. -/
def name : HolderType → String
  | naturalPerson => "natural_person"
  | legalPerson => "legal_person"
  | publicOfficial => "public_official"
  | legalRepresentative => "legal_representative"
  | companyMember => "company_member"
  | testSubject => "test_subject"
  | unknown => "unknown"

/-- The holder type of a name. -/
def ofName? (name : String) : Option HolderType :=
  all.find? fun h => h.name = name

end HolderType

end SignerTrust
