import SignerTrust.Network.Http

/-!
# Inquiries

An inquiry is a computation that asks servers on its way: each question is followed by what is done
with the answer, whatever the answer is.  It may also break off without a result.  Running an
inquiry against servers gives its result, if it comes to one, and the questions that were asked, in
order.
-/

namespace SignerTrust

/-- Why a directory has no value. -/
inductive DirectoryError
  | invalidUrl (url : String)
  | timeout (url : String)
  | noValue (url attributeName : String)
  | failed
  deriving DecidableEq, Repr

namespace DirectoryError

/-- The text of an error; that of a failure of the connection or the server is not fixed. -/
def message? : DirectoryError → Option String
  | invalidUrl url => some ("invalid LDAP URL \"" ++ url ++ "\"")
  | timeout url => some ("LDAP request to \"" ++ url ++ "\" timed out")
  | noValue url attributeName => some ("\"" ++ url ++ "\" has no value for " ++ attributeName)
  | failed => none

/-- Whether a time limit was reached. -/
def isTimeout : DirectoryError → Bool
  | timeout _ => true
  | _ => false

end DirectoryError

/-- Whether a client checks the certificates of the servers it talks to. -/
inductive ServerTrust
  | checked
  | unchecked
  deriving DecidableEq, Repr

/-- The clients that an inquiry uses. -/
structure Route where
  http : ServerTrust
  directory : ServerTrust
  deriving DecidableEq, Repr

/-- A question to a server. -/
inductive Question
  | fetch (client : ServerTrust) (request : HttpRequest)
  | lookUp (client : ServerTrust) (url attributeName : String)
  deriving DecidableEq, Repr

/-- What a question may be answered with. -/
def Question.Answer : Question → Type
  | fetch _ _ => Except HttpError HttpReply
  | lookUp _ _ _ => Except DirectoryError Bytes

/-- A computation that asks questions. -/
inductive Inquiry (α : Type) where
  | done (result : α)
  | breakOff
  | ask (question : Question) (next : question.Answer → Inquiry α)

namespace Inquiry

variable {α β σ : Type}

/-- Goes on with the result of an inquiry. -/
def bind (next : α → Inquiry β) : Inquiry α → Inquiry β
  | done a => next a
  | breakOff => breakOff
  | ask q k => ask q fun answer => bind next (k answer)

instance : Monad Inquiry where
  pure := done
  bind x f := x.bind f

/-- Goes on with a result if there is one, and breaks off otherwise. -/
def ofOption : Option α → Inquiry α
  | some a => done a
  | none => breakOff

/-- Asks for the reply to a request. -/
def fetch (client : ServerTrust) (request : HttpRequest) : Inquiry (Except HttpError HttpReply) :=
  ask (.fetch client request) done

/-- Asks a directory for a value. -/
def lookUp (client : ServerTrust) (url attributeName : String) :
    Inquiry (Except DirectoryError Bytes) :=
  ask (.lookUp client url attributeName) done

/-- Answers the questions by servers whose state `σ` changes as they answer; hands back the result,
the questions in order, and the state at the end. -/
def run (servers : (q : Question) → σ → q.Answer × σ) : Inquiry α → σ → Option α × List Question × σ
  | done a, s => (some a, [], s)
  | breakOff, s => (none, [], s)
  | ask q k, s =>
    let (answer, s) := servers q s
    let (a, asked, s) := run servers (k answer) s
    (a, q :: asked, s)

end Inquiry

end SignerTrust
