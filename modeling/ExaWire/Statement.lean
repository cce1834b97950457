/-
ExaWire/Statement.lean

Statements: sent as they are, or prepared by the server and executed with
parameters.

A statement that is prepared for one execution is closed afterwards whenever the
session is still open, and an error of the execution is reported whatever the
closing does.
-/
import ExaWire.Cursor
import ExaWire.Parameter.Batch

namespace ExaWire

/-- A statement held by the server until it is closed. -/
structure Prepared where
  /-- the session that it belongs to -/
  serial : Nat
  handle : Int
  columns : List Column
  /-- the number of parameters -/
  numInput : Int
  isClosed : Bool := false

/-- A reply to a statement, which has to have a first result. -/
def QueryReply.withFirst (r : QueryReply) : Attempt QueryReply := do
  let _ ← r.first
  .ok r

namespace Prepared

open Held

variable {ω : Type}

/-- Executes the statement with the parameters of whole rows. -/
def execute (env : Environment ω) (values : Value) (scope : Option ScopeId) :
    Held Prepared ω QueryReply := do
  let p ← object
  let batch ← ofAttempt (Parameter.Batch.build p.columns values)
  let s ← act Action.session
  ofAttempt (s.live p.serial)
  let request := Command.executePrepared (.int p.handle) batch.columns (.int batch.numRows)
    batch.wireData (.int s.config.resultSetMaxRows)
  let reply ← act (Session.send env request QueryReply.ofValue scope)
  ofAttempt reply.withFirst

/-- Executes the statement and opens a cursor over its result. -/
def query (env : Environment ω) (values : Value) (scope : Option ScopeId) :
    Held Prepared ω Cursor := do
  let reply ← execute env values scope
  let s ← act Action.session
  ofAttempt (s.live (← object).serial)
  return .ofPage s (← ofAttempt reply.firstResultSet)

/-- Closes the statement; it counts as closed once the server has confirmed it. -/
def close (env : Environment ω) : Held Prepared ω Unit := do
  let p ← object
  if p.isClosed then return
  ofAttempt ((← act Action.session).live p.serial)
  act (Session.send env (Command.closePrepared (.int p.handle)) Session.noData)
  change fun p => { p with isClosed := true }

end Prepared

namespace Statement

open ExaWire.Action

variable {ω : Type}

/-- Executes a statement as it is. -/
def simple (env : Environment ω) (sql : String) (scope : Option ScopeId) : Action ω QueryReply := do
  let s ← session
  ofAttempt (s.live s.serial)
  let request := Command.execute (.text sql) (.int s.config.resultSetMaxRows)
  let reply ← Session.send env request QueryReply.ofValue scope
  ofAttempt reply.withFirst

/-- Has the server prepare a statement. -/
def prepare (env : Environment ω) (sql : String) (scope : Option ScopeId) : Action ω Prepared := do
  let s ← session
  ofAttempt (s.live s.serial)
  let reply ← Session.send env (Command.createPrepared (.text sql)) PreparedReply.ofValue scope
  note .debug ("Prepared statement " ++ toString reply.handle ++ " with " ++
    toString reply.numParameters ++ " parameters")
  return {
    serial := s.serial
    handle := reply.handle
    columns := reply.columns
    numInput := reply.numParameters }

/-- Closes a statement after its execution failed, if the session is still open. -/
def tidy (env : Environment ω) (p : Prepared) : Action ω Unit := do
  if (← session).phase = .open then
    let (result, _) ← (Prepared.close env).on p
    match result with
    | .ok () => pure ()
    | .error f =>
      if f.isReported then
        note .warn ("Could not close statement " ++ toString p.handle ++ ": " ++ f.message)
      else throw f

/-- Prepares a statement, executes it once and closes it. -/
def once (env : Environment ω) (sql : String) (values : Value) (scope : Option ScopeId) :
    Action ω QueryReply := do
  let p ← prepare env sql scope
  let (result, p) ← (Prepared.execute env values scope).on p
  match result with
  | .ok reply =>
    let (closed, _) ← (Prepared.close env).on p
    ofAttempt closed
    return reply
  | .error f =>
    tidy env p
    throw f

/-- Executes a statement, with parameters if any are given. -/
def run (env : Environment ω) (sql : String) (values : Value) (scope : Option ScopeId) :
    Action ω QueryReply :=
  if values.isGiven then once env sql values scope else simple env sql scope

end Statement

end ExaWire
