/-
ExaWire/Session/Exchange.lean

The exchange of one request for one reply.

A request is refused while another one is under way, and unless the session is
open.  Once it has been written, the exchange reads exactly one reply, or leaves
the session broken: a channel that fails, a reply that cannot be read and a
cancellation all do, because whatever arrives later could not be told from the
reply to a later request.  So an open session never has a reply to come.
-/
import ExaWire.Connect.Channel
import ExaWire.Session.Codec

namespace ExaWire.Session

open Network ExaWire.Action

variable {ω α : Type}

/-- Breaks the session for an error, and gives the failure that tells of it. -/
def breakFor (what why : String) : Action ω Failure := do
  setSession fun s => { s with phase := .broken }
  note .error (what ++ ": " ++ why)
  return .of .broken (what ++ ": " ++ why)

/-- What remains of a channel's failure: the session is broken. -/
def orBreak (r : Attempt α) : Action ω α := do
  match r with
  | .ok a => return a
  | .error f => throw (← breakFor "network failure" f.message)

/-- The name of a request as notes give it; the second request of a login has none. -/
def nameOf : Value → Attempt String
  | .object entries => .ok ((Value.lookup? "command" entries).getD (.text "login")).plain
  | _ => fault .noMember

/-- Writes a request. -/
def write (env : Environment ω) (request : Value) : Action ω Unit := do
  let compressing := (← session).compressing
  let payload ← ofAttempt (encode env.codec compressing request)
  note .debug ("-> " ++ (← ofAttempt (nameOf request)))
  orBreak (← attempt (Channel.send env ⟨payload, compressing⟩))

/-- How a wait for a reply ended. -/
inductive Waited
  | ready
  | cancelled (cause : Cause)
  | failed (f : Failure)

/-- Waits for a reply under a scope: asks the scope, then the channel, until one of them
ends the wait; in between, an upload that is under way goes on. -/
def await (env : Environment ω) (scope : ScopeId) (c : Client ω) : Waited × Client ω :=
  match (c.poll scope).1 with
  | some cause => (.cancelled cause, (c.poll scope).2)
  | none =>
    match _h : (Channel.poll env (c.poll scope).2).1 with
    | .error f => (.failed f, (Channel.poll env (c.poll scope).2).2)
    | .ok true => (.ready, (Channel.poll env (c.poll scope).2).2)
    | .ok false => await env scope (Channel.poll env (c.poll scope).2).2.idle
termination_by env.wire.patience c.wire
decreasing_by
  rw [Client.wire_idle]
  exact Channel.patience_poll _h

/-- Ends the request under way, on behalf of a scope that is cancelled. -/
def abort (env : Environment ω) (cause : Cause) : Action ω α := do
  setSession fun s => { s with phase := .broken }
  note .warn ("Request cancelled (" ++ cause.text ++ "), sending abortQuery")
  let compressing := (← session).compressing
  let payload ← ofAttempt (encode env.codec compressing Command.abortQuery)
  match ← attempt (Channel.send env ⟨payload, compressing⟩) with
  | .ok () => throw (.cancelled cause)
  | .error _ => throw (.notAborted cause)

/-- Reads the reply to a request. -/
def read (env : Environment ω) : Action ω (List (Value × Value)) := do
  let payload ← orBreak (← attempt (Channel.receive env))
  match decode env.codec (← session).compressing payload with
  | .ok entries => return entries
  | .error u => throw (← breakFor u.what u.why)

/-- Waits for the reply to a request, if there is a scope that could end the wait, and
reads it. -/
def reply (env : Environment ω) (scope : Option ScopeId) : Action ω (List (Value × Value)) := do
  match scope with
  | none => read env
  | some scope =>
    let waited ← fun c =>
      let (w, c) := await env scope c
      (.ok w, c)
    match waited with
    | .ready => read env
    | .cancelled cause => abort env cause
    | .failed f => orBreak (.error f)

/-- Exchanges a request for its reply on a session that can carry it. -/
def exchange (env : Environment ω) (request : Value) (scope : Option ScopeId) :
    Action ω (List (Value × Value)) := do
  ofAttempt ((← session).usable request)
  write env request
  reply env scope

/-- Sends a request and reads a record from its reply. -/
def send (env : Environment ω) (request : Value) (read : Value → Attempt α)
    (scope : Option ScopeId := none) : Action ω α := do
  ofAttempt (← session).grant
  setSession fun s => { s with outstanding := true }
  let result ← attempt (exchange env request scope)
  setSession fun s => { s with outstanding := false }
  let entries ← ofAttempt result
  ofAttempt (answer read entries)

/-- A reply whose data is of no interest. -/
def noData (_ : Value) : Attempt Unit := .ok ()

end ExaWire.Session
