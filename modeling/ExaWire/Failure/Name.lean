/-
ExaWire/Failure/Name.lean

The names of the failures, and how they are ordered: a failure may be a special
case of another, and all that are reported are special cases of the general one.
Faults have no name here.
-/
import ExaWire.Failure

namespace ExaWire

namespace Kind

/-- The name of a kind of failure. -/
def name : Kind → String
  | .general => "ExasolError"
  | .connect => "ConnectFailed"
  | .handshake => "HandshakeFailed"
  | .broken => "BadConnection"
  | .closed => "ClosedConnection"
  | .notConnected => "NotConnected"
  | .malformedResult => "MalformedResult"
  | .autocommit => "AutocommitEnabled"
  | .valuesCount => "InvalidValuesCount"
  | .noInsertId => "NoLastInsertId"
  | .finished => "InvalidConnection"
  | .connectionString => "InvalidConnectionString"
  | .proxy => "InvalidProxyConnection"
  | .importQuery => "InvalidImportQuery"
  | .transport => "TransportError"

/-- All kinds. -/
def all : List Kind :=
  [.general, .connect, .handshake, .broken, .closed, .notConnected, .malformedResult, .autocommit,
    .valuesCount, .noInsertId, .finished, .connectionString, .proxy, .importQuery, .transport]

/-- The kind of a name. -/
def ofName? (s : String) : Option Kind := all.find? (·.name = s)

end Kind

namespace Failure

/-- The name of a failure that is reported. -/
def name? : Failure → Option String
  | .told kind _ _ => some kind.name
  | .protocol decoding _ _ _ => some (if decoding then "ParseError" else "ProtocolViolation")
  | .certificate _ => some "CertificateRejected"
  | .sql _ _ => some "SqlExecutionError"
  | .argument _ _ => some "InvalidArgType"
  | .hostRange _ => some "InvalidHostRange"
  | .noFile _ => some "FileNotFound"
  | .cancelled _ => some "Cancelled"
  | .notAborted _ => some "CouldNotAbort"
  | .fault _ => none

/-- The names of the failures that a failure is a special case of, nearest first. -/
def ancestors : Failure → List String
  | .told .general _ _ | .fault _ => []
  | .told .closed _ _ | .told .notConnected _ _ => [Kind.broken.name, Kind.general.name]
  | .protocol true _ _ _ => ["ProtocolViolation", Kind.general.name]
  | _ => [Kind.general.name]

end Failure

end ExaWire
