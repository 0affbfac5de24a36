import SignerTrust.Network.Http

/-!
# Clients

A client puts a request together and sends it to a server.  A request whose parts break their
grammar is not sent at all.
-/

namespace SignerTrust

/-- The parts of a request before it is put together. -/
structure RequestDraft where
  method : String
  url : String
  headers : List (String × Bytes)
  body : Bytes
  deriving DecidableEq, Repr

namespace RequestDraft

/-- Whether a character may stand in a method or in the name of a header. -/
def isTokenChar (c : Char) : Bool :=
  c.isAlphanum || "!#$%&'*+-.^_\x60|~".toList.contains c

/-- Whether a text is a word of token characters. -/
def isToken (t : String) : Bool :=
  !t.isEmpty && t.toList.all isTokenChar

/-- Whether a byte may stand in the value of a header. -/
def isValueByte (b : UInt8) : Bool :=
  b = 0x09 || (0x20 ≤ b && b ≠ 0x7f)

/-- The address of a request whose parts keep their grammar. -/
def address? (d : RequestDraft) : Option Uri :=
  if isToken d.method && d.headers.all fun (name, value) => isToken name && value.all isValueByte
  then Uri.parse? d.url else none

end RequestDraft

/-- What a server does about a request. -/
inductive HttpServer
  | unreachable
  | silent
  | replies (reply : HttpReply)
  deriving DecidableEq, Repr

/-- The reply of a server to a request. -/
def HttpServer.fetch (s : HttpServer) (d : RequestDraft) : Except HttpError HttpReply :=
  match d.address? with
  | none => .error .invalidRequest
  | some uri =>
    match s with
    | unreachable => .error (.other "the server cannot be reached")
    | silent => .error (.timeout uri.text)
    | replies reply => .ok reply

end SignerTrust
