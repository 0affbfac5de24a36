import SignerTrust.Bytes
import SignerTrust.Network.Uri

/-!
# Requests and replies

A reply has a status and a body that arrives in pieces.  The stream of pieces may end with a fault,
which only a reader meets that gets so far.  A body is read up to a limit: one that is longer is
refused, whatever follows its first bytes past the limit.  With the greatest limit there is no
number of bytes to read up to, and the reader breaks off.
-/

namespace SignerTrust

/-- The method of a request. -/
inductive HttpMethod
  | get
  | post
  deriving DecidableEq, Repr

/-- The name of a method. -/
def HttpMethod.name : HttpMethod → String
  | get => "GET"
  | post => "POST"

/-- A request. -/
structure HttpRequest where
  method : HttpMethod
  uri : Uri
  headers : List (String × String)
  body : Bytes
  deriving DecidableEq, Repr

/-- How a connection fails. -/
inductive IoFault
  | timedOut
  | refused
  | reset
  | endOfFile
  | wouldBlock
  | other
  deriving DecidableEq, Repr

/-- Why there is no reply, or none that can be used. -/
inductive HttpError
  | invalidRequest
  | io (fault : IoFault) (text : String)
  | timeout (uri : String)
  | tooLarge (uri : String) (limit : UInt64)
  | other (text : String)
  deriving DecidableEq, Repr

namespace HttpError

/-- The text of an error; that of a request that cannot be made is not fixed. -/
def message? : HttpError → Option String
  | invalidRequest => none
  | io _ text => some text
  | timeout uri => some ("request to \"" ++ uri ++ "\" timed out")
  | tooLarge uri limit =>
    some ("response from \"" ++ uri ++ "\" exceeds " ++ toString limit.toNat ++ " bytes")
  | other text => some ("an error occurred from the underlying http resolver: " ++ text)

/-- Whether a time limit was reached. -/
def isTimeout : HttpError → Bool
  | timeout _ => true
  | io .timedOut _ => true
  | _ => false

end HttpError

/-- A body in the pieces in which it arrives, and the fault at its end, if it does not end well. -/
structure BodyStream where
  pieces : List Bytes
  fault : Option (IoFault × String)
  deriving DecidableEq, Repr

namespace BodyStream

/-- All bytes of a body. -/
def bytes (b : BodyStream) : Bytes :=
  b.pieces.flatten

/-- Reads pieces until they hold `bound` bytes or end; no more than `bound` bytes are kept. -/
def take (fault : Option (IoFault × String)) :
    (bound : Nat) → List Bytes → Except (IoFault × String) Bytes
  | 0, _ => .ok []
  | _ + 1, [] =>
    match fault with
    | none => .ok []
    | some f => .error f
  | bound + 1, piece :: rest =>
    if bound < piece.length then .ok (piece.take (bound + 1))
    else (take fault (bound + 1 - piece.length) rest).map (piece ++ ·)

/-- How many bytes are read of a body with a limit: one more than the limit, if that is a word. -/
def readBound? (limit : UInt64) : Option UInt64 :=
  if limit.toNat + 1 < UInt64.size then some (limit + 1) else none

/-- What a reader makes of the bytes that it took, of which there may be up to `limit`. -/
def handBack (limit : UInt64) (uri : String) :
    Except (IoFault × String) Bytes → Except HttpError Bytes
  | .error (.timedOut, _) => .error (.timeout uri)
  | .error (fault, text) => .error (.io fault text)
  | .ok bytes => if limit.toNat < bytes.length then .error (.tooLarge uri limit) else .ok bytes

/-- Reads a body that may have up to `limit` bytes; breaks off if there is no bound for the read. -/
def read (b : BodyStream) (limit : UInt64) (uri : String) : Option (Except HttpError Bytes) :=
  (readBound? limit).map fun bound => handBack limit uri (take b.fault bound.toNat b.pieces)

/-- Cuts bytes into pieces of a size; the last may be shorter. -/
def cut (size : Nat) (bytes : Bytes) : List Bytes :=
  go bytes.length bytes
where
  go : (fuel : Nat) → Bytes → List Bytes
    | _, [] => []
    | 0, b :: bs => [b :: bs]
    | fuel + 1, b :: bs =>
      if size = 0 then [b :: bs]
      else (b :: bs).take size :: go fuel ((b :: bs).drop size)

end BodyStream

/-- A reply. -/
structure HttpReply where
  status : Nat
  body : BodyStream
  deriving DecidableEq, Repr

/-- Whether a reply brings what was asked for. -/
def HttpReply.isSuccess (r : HttpReply) : Bool :=
  200 ≤ r.status && r.status < 300

end SignerTrust
