import SignerTrust.Json.Reader
import SignerTrust.Outcome

/-!
# Reports as JSON

A report is written as an object with a `result` and, when that is `KO`, a `reason`.  Readers also
take an array of the two, skip members they do not know, and take a name in either of its two forms:
the bare string, or an object whose only member has that name and holds `null`.
-/

namespace SignerTrust

/-- The name that a value stands for, in either form. -/
def Json.name? : Json → Option String
  | .string s => JsonString.text? s
  | .object [(key, .null)] => JsonString.text? key
  | _ => none

namespace Report

/-- The text of a report. -/
def toJson : Report → String
  | ok => "\x7b\"result\":\"OK\"\x7d"
  | ko reason => "\x7b\"result\":\"KO\",\"reason\":\"" ++ reason.name ++ "\"\x7d"

/-- Why a text is no report. -/
inductive ReadError
  | malformed
  | okWithReason (reason : Outcome)
  | koWithValid
  deriving DecidableEq, Repr

/-- The text of a reading error that tells of a contradiction. -/
def ReadError.message? : ReadError → Option String
  | malformed => none
  | okWithReason reason => some ("result OK cannot carry reason " ++ reason.name)
  | koWithValid => some "result KO cannot carry reason VALID"

/-- What the members of a report say; an absent one says nothing. -/
structure Parts where
  result : Option Bool
  reason : Option (Option Outcome)
  deriving DecidableEq, Repr

/-- Whether a value says that the result is good. -/
def readResult? (j : Json) : Option Bool := do
  let name ← j.name?
  if name = "OK" then some true else if name = "KO" then some false else none

/-- The reason that a value gives, which may be none. -/
def readReason? (j : Json) : Option (Option Outcome) :=
  if j.isNull then some none else (j.name?.bind Outcome.ofName?).map some

/-- Takes in one member; a repeated one refuses, an unknown one changes nothing. -/
def Parts.add? (p : Parts) (member : JsonString × Json) : Option Parts := do
  let key ← JsonString.text? member.1
  if key = "result" then
    if p.result.isSome then none else return { p with result := some (← readResult? member.2) }
  else if key = "reason" then
    if p.reason.isSome then none else return { p with reason := some (← readReason? member.2) }
  else return p

/-- What a value says as a report. -/
def parts? : Json → Option Parts
  | .object members => members.foldlM Parts.add? ⟨none, none⟩
  | .array [result] => do return ⟨some (← readResult? result), none⟩
  | .array [result, reason] => do return ⟨some (← readResult? result), some (← readReason? reason)⟩
  | _ => none

/-- The outcome that a report tells: a negative one without a reason tells of an unknown status. -/
def Parts.outcome (p : Parts) : Except ReadError Outcome :=
  match p.result, p.reason.join with
  | none, _ => .error .malformed
  | some true, none => .ok .valid
  | some true, some reason => .error (.okWithReason reason)
  | some false, none => .ok .unknown
  | some false, some reason => if reason = .valid then .error .koWithValid else .ok reason

end Report

/-- The text of the report of an outcome. -/
def Outcome.toJson (o : Outcome) : String :=
  o.report.toJson

/-- Reads the outcome back from the text of a report. -/
def Outcome.ofJson (text : String) : Except Report.ReadError Outcome :=
  match (Json.parse? text).bind Report.parts? with
  | none => .error .malformed
  | some parts => parts.outcome

end SignerTrust
