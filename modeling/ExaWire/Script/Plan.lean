/-
ExaWire/Script/Plan.lean

Plans for scopes: what is to become of a scope and of its parents, and when.  A
plan is carried out at the start of a call; what happens later is left to the
timers of the far end and to the alarms of sockets.
-/
import ExaWire.Network.Peer
import ExaWire.Script.FarEnd

namespace ExaWire.Script

open Network

/-- What is to become of one scope. -/
structure Fate where
  deadline : Deadline := .none
  cause : Option Cause := none
  /-- whether it is cancelled from the start -/
  atOnce : Bool := false
  /-- the poll at which it is cancelled -/
  atPoll : Option Nat := none
  /-- how many bytes of an upload are written before it is cancelled -/
  atByte : Option Nat := none

/-- A scope with its parents, the oldest first. -/
abbrev Plan := List Fate

/-- A plan carried out. -/
structure Arranged where
  scope : Option ScopeId := none
  scopes : Scopes
  timers : List Timer := []
  alarms : List (Nat × Cancellation) := []

/-- One more scope below those arranged so far. -/
def Arranged.add (a : Arranged) (f : Fate) : Arranged :=
  let (id, scopes) := a.scopes.create f.deadline a.scope
  let cancellation : Cancellation := ⟨id, f.cause⟩
  { scope := some id
    scopes := if f.atOnce then scopes.apply [cancellation] else scopes
    timers := a.timers ++ f.atPoll.toList.map fun n => ⟨n, cancellation⟩
    alarms := a.alarms ++ f.atByte.toList.map fun n => (n, cancellation) }

/-- Carries out a plan. -/
def Plan.arrange (plan : Plan) (scopes : Scopes) : Arranged := plan.foldl .add { scopes }

/-- Hosts by their names, every socket with the same alarms; any other host refuses. -/
def directory (hosts : List (String × Answer)) (alarms : List (Nat × Cancellation)) : Directory :=
  fun _ name =>
    match hosts.lookup name with
    | none => .error "connection refused"
    | some (.error text) => .error text
    | some (.ok peer) => .ok { peer with socket := { peer.socket with alarms } }

end ExaWire.Script
