/-
ExaWire/Failure.lean

Everything that can end an operation early.  A failure is told by what went
wrong; its code and its text are rendered here and nowhere else.

Beside the failures that this library reports stand its *faults*: a value of a
kind that an operation cannot use, a text that is no number, an index out of
range.  They carry no code, and whether one is turned into a failure is decided
where replies are decoded.
-/
import ExaWire.Value.Written

namespace ExaWire

/-- A misuse of a value, not reported by a failure of its own. -/
inductive Fault
  /-- a value of a kind that the operation cannot use -/
  | wrongKind
  /-- a text or a number that cannot be converted -/
  | badValue
  /-- a number too great to be converted -/
  | tooGreat
  /-- a member asked of a value that has none -/
  | noMember
  /-- an index or a group number outside the range -/
  | outOfRange
  /-- a name that is not defined -/
  | unknownName
  /-- a replacement text with an undefined escape or group -/
  | badTemplate
  /-- a text that is no JSON -/
  | notJson
  /-- what the body of a guarded block raised -/
  | interrupted
deriving DecidableEq, Repr

/-- The kinds of failure that are told by a text alone. -/
inductive Kind
  | general
  /-- no candidate host accepted a connection -/
  | connect
  /-- the login was rejected or broke off -/
  | handshake
  /-- the session is out of step and must be replaced -/
  | broken
  /-- the session was closed -/
  | closed
  /-- the session has no channel -/
  | notConnected
  /-- a result that lacks what its own counters promise -/
  | malformedResult
  | autocommit
  | valuesCount
  | noInsertId
  /-- a transaction that was already finished -/
  | finished
  | connectionString
  /-- the endpoint for local files could not be reached or fed -/
  | proxy
  | importQuery
  /-- a channel could not write or read -/
  | transport
deriving DecidableEq, Repr

/-- The code of a kind of failure. -/
def Kind.code : Kind → String
  | .general => "E-EXA-0"
  | .connect => "E-EXA-14"
  | .handshake => "E-EXA-13"
  | .broken => "E-EXA-1"
  | .closed => "E-EXA-2"
  | .notConnected => "E-EXA-29"
  | .malformedResult => "E-EXA-3"
  | .autocommit => "E-EXA-4"
  | .valuesCount => "E-EXA-5"
  | .noInsertId => "E-EXA-6"
  | .finished => "E-EXA-7"
  | .connectionString => "E-EXA-21"
  | .proxy => "E-EXA-26"
  | .importQuery => "E-EXA-27"
  | .transport => "W-EXA-16"

/-- Why a server certificate was not accepted. -/
structure Rejection where
  reason : String
  actual : Option String
  expected : Option String
  detail : Option String
deriving DecidableEq, Repr

/-- An error below the channels: of a socket, or of the upgrade to frames. -/
inductive NetworkError
  | socket (text : String)
  | upgrade (text : String)
deriving DecidableEq, Repr

/-- What the network said. -/
def NetworkError.text : NetworkError → String
  | .socket text => text
  | .upgrade text => text

mutual
/-- A failure of an operation. -/
inductive Failure
  | told (kind : Kind) (text : String) (context : Context)
  /-- a reply outside the protocol; `decoding` if its data could not be decoded -/
  | protocol (decoding : Bool) (text : String) (status : Value) (context : Context)
  | certificate (r : Rejection)
  /-- the server reports a failed statement -/
  | sql (code text : String)
  /-- a value that its column's type cannot take -/
  | argument (value : Value) (dataType : String)
  | hostRange (host : String)
  | noFile (path : String)
  | cancelled (cause : Cause)
  /-- the abort after a cancellation could not be sent -/
  | notAborted (cause : Cause)
  | fault (f : Fault)
/-- Why something was cancelled: a note of the caller, or a failure elsewhere. -/
inductive Cause
  | note (v : Value)
  | failure (f : Failure)
/-- The error that a failure reports on, if any. -/
inductive Context
  | none
  | failure (f : Failure)
  | network (e : NetworkError)
end

namespace Rejection

/-- The text of a rejection. -/
def text (r : Rejection) : String :=
  let shown (s : Option String) := s.getD "None"
  if r.reason = "missing" then "server did not return certificates"
  else if r.reason = "mismatch" then
    "the server's certificate fingerprint '" ++ shown r.actual ++
      "' does not match the expected fingerprint '" ++ shown r.expected ++ "'"
  else if r.reason = "validation" then
    "server certificate failed validation: " ++ shown r.detail
  else "server certificate rejected: " ++ r.reason

/-- The peer has no certificate. -/
def missing : Rejection := ⟨"missing", none, none, none⟩

/-- The peer's certificate is not the pinned one. -/
def mismatch (actual expected : String) : Rejection :=
  ⟨"mismatch", some actual, some expected, none⟩

/-- The certificate chain is not trusted. -/
def validation (detail : String) : Rejection := ⟨"validation", none, none, some detail⟩

end Rejection

/-- The text of a fault. -/
def Fault.text : Fault → String
  | .wrongKind => "value of the wrong kind"
  | .badValue => "value cannot be converted"
  | .tooGreat => "value too great to be converted"
  | .noMember => "value has no such member"
  | .outOfRange => "index out of range"
  | .unknownName => "unknown name"
  | .badTemplate => "bad replacement text"
  | .notJson => "text is not JSON"
  | .interrupted => "boom"

/-- Whether a cause was given; a null or an empty value does not count. -/
def Cause.isGiven : Cause → Bool
  | .note v => v.isGiven
  | .failure _ => true

namespace Failure

/-- The code of a failure. -/
def code : Failure → String
  | .told kind _ _ => kind.code
  | .protocol _ _ _ _ => "E-EXA-19"
  | .certificate _ => "E-EXA-10"
  | .sql _ _ => "E-EXA-11"
  | .argument _ _ => "E-EXA-30"
  | .hostRange _ => "E-EXA-20"
  | .noFile _ => "E-EXA-28"
  | .cancelled _ => "E-EXA-31"
  | .notAborted _ => "E-EXA-12"
  | .fault _ => ""

/-- A text behind the code of its failure; a fault has no code. -/
def coded (f : Failure) (text : String) : String :=
  match f with
  | .fault _ => text
  | f => f.code ++ ": " ++ text

/-- The note that stands for a cancellation without a cause. -/
def byCaller : String := "cancelled by caller"

mutual
/-- The text of a failure without its code. -/
def short : Failure → String
  | .told _ text _ => text
  | .protocol _ text _ _ => text
  | .certificate r => r.text
  | .sql code text =>
    "execution failed with SQL error code '" ++ code ++ "' and message '" ++ text ++ "'"
  | .argument v dataType =>
    "cannot convert argument " ++ String.ofList v.written ++ " of type " ++ v.kindName ++
      " to " ++ dataType ++ " type"
  | .hostRange host => "invalid host range limits: '" ++ host ++ "'"
  | .noFile path => "file '" ++ path ++ "' not found"
  | .cancelled cause =>
    let text := causeText cause
    "operation cancelled: " ++ (if cause.isGiven then text else byCaller)
  | .notAborted cause => "could not abort query: " ++ causeText cause
  | .fault f => f.text
/-- The text of a cause; that of a failure has its code. -/
def causeText : Cause → String
  | .note v => v.plain
  | .failure f => f.coded f.short
end

/-- The full text of a failure: its code, a colon and what went wrong. -/
def message (f : Failure) : String := f.coded f.short

/-- A failure that is told by its kind and a text. -/
def of (kind : Kind) (text : String) : Failure := .told kind text .none

/-- Whether a failure is one that this library reports, and not a fault. -/
def isReported : Failure → Bool
  | .fault _ => false
  | _ => true

/-- Whether a failure tells of a cancellation. -/
def isCancellation : Failure → Bool
  | .cancelled _ => true
  | _ => false

end Failure

/-- The full text of a cause. -/
def Cause.text : Cause → String := Failure.causeText

end ExaWire
