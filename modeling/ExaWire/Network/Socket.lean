/-
ExaWire/Network/Socket.lean

A connected socket, as far as a client can tell: what it will deliver, what it
took, and which of its operations fail.  Nothing here acts by itself, so a
socket is the record of one side of a conversation together with the other side's
part that is still to come.
-/
import ExaWire.Scope
import ExaWire.Text.Utf8

namespace ExaWire

/-- The wish to cancel a scope, with a cause if there is one. -/
structure Cancellation where
  scope : ScopeId
  cause : Option Cause

/-- All scopes after some were cancelled, in order. -/
def Scopes.apply (cancellations : List Cancellation) (scopes : Scopes) : Scopes :=
  cancellations.foldl (fun s c => s.cancel c.scope c.cause) scopes

namespace Network

/-- What the next reading gives. -/
inductive Delivery
  | bytes (bs : Bytes)
  | failure (text : String)
deriving Repr

/-- A connected socket. -/
structure Socket where
  host : String
  /-- what is still to be read; then the peer has closed -/
  incoming : List Delivery := []
  /-- what was sent at once -/
  sent : Bytes := []
  /-- what was written to the stream, newest first -/
  writes : List Bytes := []
  /-- the bytes written to the stream -/
  written : Nat := 0
  sendFailure : Option String := none
  /-- how many bytes the stream takes before it fails -/
  writeLimit : Option Nat := none
  writeFailure : String := "broken pipe"
  flushFailure : Option String := none
  shutdownFailure : Option String := none
  closeFailure : Option String := none
  streamCloseFailure : Option String := none
  /-- whether a write waits until the socket is shut down -/
  blocks : Bool := false
  isShut : Bool := false
  /-- scopes that are cancelled once so many bytes are written -/
  alarms : List (Nat × Cancellation) := []

namespace Socket

/-- An operation that fails with a text, or else does nothing. -/
def failing : Option String → Except String Unit
  | none => .ok ()
  | some text => .error text

/-- Sends bytes at once. -/
def send (bs : Bytes) (s : Socket) : Except String Unit × Socket :=
  match s.sendFailure with
  | some text => (.error text, s)
  | none => (.ok (), { s with sent := s.sent ++ bs })

/-- Reads at most so many bytes; none if the peer has closed. -/
def receive (size : Nat) (s : Socket) : Except String Bytes × Socket :=
  match s.incoming with
  | [] => (.ok [], s)
  | .failure text :: rest => (.error text, { s with incoming := rest })
  | .bytes bs :: rest =>
    let later := bs.drop size
    let incoming := if later.isEmpty then rest else .bytes later :: rest
    (.ok (bs.take size), { s with incoming })

/-- How a write to the stream went. -/
inductive Written
  | done
  | failed (text : String)
  /-- the write does not return before the socket is shut down -/
  | blocked
deriving Repr

/-- Writes to the stream.  A write that passes the limit adds nothing. -/
def write (bs : Bytes) (s : Socket) : Written × Socket :=
  if s.blocks then (if s.isShut then .failed s.writeFailure else .blocked, s)
  else
    let written := s.written + bs.length
    match s.writeLimit with
    | some limit =>
      if limit < written then (.failed s.writeFailure, s)
      else (.done, { s with writes := bs :: s.writes, written })
    | none => (.done, { s with writes := bs :: s.writes, written })

/-- The cancellations whose time has come. -/
def dueAlarms (s : Socket) : List Cancellation :=
  (s.alarms.filter fun a => a.1 ≤ s.written).map (·.2)

/-- What was written to the stream. -/
def stream (s : Socket) : Bytes := s.writes.reverse.flatten

end Socket

end Network

end ExaWire
