import SignerTrust.Network.Inquiry

/-!
# Rehearsed servers

Servers that answer from a script.  For each address there is a list of replies, which are used in
turn, the last one again and again; an address without replies refuses the connection.  A directory
answers the same each time, and has no value for an address that is not in its script.
-/

namespace SignerTrust

/-- A reply of the script. -/
inductive RehearsedReply
  | reply (r : HttpReply)
  | timeout
  | tooLarge
  | failed (fault : IoFault)
  | other
  deriving DecidableEq, Repr

/-- The limit that a rehearsed reply reports to be exceeded. -/
def rehearsedLimit : UInt64 := 7

/-- The answer that a reply of the script stands for. -/
def RehearsedReply.answer (uri : String) : RehearsedReply → Except HttpError HttpReply
  | reply r => .ok r
  | timeout => .error (.timeout uri)
  | tooLarge => .error (.tooLarge uri rehearsedLimit)
  | failed fault => .error (.io fault "connection failed")
  | other => .error (.other "other failure")

/-- An entry of a directory's script. -/
inductive RehearsedValue
  | value (bytes : Bytes)
  | timeout
  | invalidUrl
  | noValue
  deriving DecidableEq, Repr

/-- The answer that an entry of the script stands for. -/
def RehearsedValue.answer (url attributeName : String) :
    RehearsedValue → Except DirectoryError Bytes
  | value bytes => .ok bytes
  | timeout => .error (.timeout url)
  | invalidUrl => .error (.invalidUrl url)
  | noValue => .error (.noValue url attributeName)

/-- The script of the servers that one client reaches. -/
structure Script where
  replies : List (String × List RehearsedReply) := []
  values : List (String × RehearsedValue) := []
  deriving Repr

namespace Script

/-- The next reply for an address, and the replies that are left. -/
def nextReply (uri : String) :
    List (String × List RehearsedReply) → RehearsedReply × List (String × List RehearsedReply)
  | [] => (.failed .refused, [])
  | (u, rs) :: rest =>
    if u = uri then
      match rs with
      | [] => (.failed .refused, (u, rs) :: rest)
      | [r] => (r, (u, rs) :: rest)
      | r :: r' :: more => (r, (u, r' :: more) :: rest)
    else
      let (r, rest) := nextReply uri rest
      (r, (u, rs) :: rest)

/-- Answers a request. -/
def fetch (s : Script) (request : HttpRequest) : Except HttpError HttpReply × Script :=
  let uri := request.uri.text
  let (r, replies) := nextReply uri s.replies
  (r.answer uri, { s with replies })

/-- Answers a question to a directory. -/
def lookUp (s : Script) (url attributeName : String) : Except DirectoryError Bytes :=
  ((s.values.lookup url).getD .noValue).answer url attributeName

end Script

/-- The scripts of the servers as the two kinds of clients reach them. -/
structure Rehearsal where
  checked : Script := {}
  unchecked : Script := {}
  deriving Repr

namespace Rehearsal

/-- Answers a question from the script of the client that asks. -/
def answer : (q : Question) → Rehearsal → q.Answer × Rehearsal
  | .fetch .checked request, s =>
    let (a, checked) := s.checked.fetch request
    (a, { s with checked })
  | .fetch .unchecked request, s =>
    let (a, unchecked) := s.unchecked.fetch request
    (a, { s with unchecked })
  | .lookUp .checked url attributeName, s => (s.checked.lookUp url attributeName, s)
  | .lookUp .unchecked url attributeName, s => (s.unchecked.lookUp url attributeName, s)

/-- Runs an inquiry against rehearsed servers. -/
def run {α : Type} (s : Rehearsal) (inquiry : Inquiry α) : Option α × List Question × Rehearsal :=
  inquiry.run answer s

end Rehearsal

end SignerTrust
