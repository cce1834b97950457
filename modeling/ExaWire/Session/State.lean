/-
ExaWire/Session/State.lean

A session as such: its settings, how far it has come, and whether a request is
under way.  Only an open session takes requests, and only one at a time.
-/
import ExaWire.Config
import ExaWire.Reply

namespace ExaWire

/-- How far a session has come. -/
inductive Phase
  | closed
  | open
  /-- out of step with the server; it must be replaced -/
  | broken
deriving DecidableEq, Repr

/-- The name of a phase. -/
def Phase.name : Phase → String
  | .closed => "closed"
  | .open => "open"
  | .broken => "broken"

/-- A session. -/
structure Session where
  /-- tells sessions apart that follow one another -/
  serial : Nat := 0
  config : Config := {}
  phase : Phase := .closed
  /-- whether it has a channel -/
  attached : Bool := false
  /-- whether frames are compressed -/
  compressing : Bool := false
  /-- whether a request is under way -/
  outstanding : Bool := false
  /-- what the server told at the login -/
  info : Option LoginReply := none

namespace Session

/-- Whether a session is closed. -/
def isClosed (s : Session) : Bool := s.phase = .closed

/-- The refusal of everything that needs a session that is not closed. -/
def closedFailure : Failure := .of .closed "connection was closed"

/-- Admits a request, unless one is under way. -/
def grant (s : Session) : Attempt Unit :=
  if s.outstanding then .error (.of .broken "a request is already outstanding on this session")
  else .ok ()

/-- Whether a session can carry a request. -/
def usable (s : Session) (request : Value) : Attempt Unit :=
  match s.phase with
  | .closed => .error closedFailure
  | .broken =>
    .error (.of .broken "session is out of sync after a failure and must be recreated")
  | .open =>
    if s.attached then .ok ()
    else do
      let name ← request.member "command"
      .error (.of .notConnected
        ("could not send request '" ++ name.plain ++ "': not connected to server"))

/-- What an object that was made by a session needs to go on: that very session, not
closed. -/
def live (s : Session) (serial : Nat) : Attempt Unit :=
  if s.serial = serial ∧ ¬ s.isClosed then .ok () else .error closedFailure

end Session

end ExaWire
