/-
ExaWire/Connection.lean

What a caller does with a connection: execute statements, query, prepare, begin
transactions, and close.  A statement that loads local files is run as an import;
everything else is sent as it is.
-/
import ExaWire.ConnectionString
import ExaWire.Import.Run
import ExaWire.Session.Login
import ExaWire.Transaction

namespace ExaWire.Connection

open ExaWire.Action

variable {ω : Type}

/-- Opens a connection with settings. -/
def connect (env : Environment ω) (config : Config) (scope : Option ScopeId) : Action ω Unit := do
  note .info ("Connecting to " ++ config.host ++ ":" ++ toString config.port)
  Session.connect env config scope

/-- Opens a connection with a connection string. -/
def connectTo (env : Environment ω) (dsn : String) (scope : Option ScopeId) : Action ω Unit := do
  match ConnectionString.parse dsn with
  | .ok config => connect env config scope
  | .error r => throw r.failure

/-- Refuses everything once the session is closed. -/
def ensureOpen : Action ω Unit := do
  if (← session).isClosed then throw Session.closedFailure

/-- Executes a statement that gives no rows, and tells how many it affected. -/
def execute (env : Environment ω) (sql : String) (values : Value) (scope : Option ScopeId) :
    Action ω Int := do
  ensureOpen
  let config := (← session).config
  let reply ←
    if Import.isImport sql.toList then
      Import.run env config.host config.port sql
        (fun statement scope => Statement.run env statement values (some scope)) scope
    else Statement.run env sql values scope
  ofAttempt reply.firstRowCount

/-- Executes a statement and opens a cursor over its result. -/
def query (env : Environment ω) (sql : String) (values : Value) (scope : Option ScopeId) :
    Action ω Cursor := do
  ensureOpen
  let reply ← Statement.run env sql values scope
  return .ofPage (← session) (← ofAttempt reply.firstResultSet)

/-- Has the server prepare a statement. -/
def prepare (env : Environment ω) (sql : String) (scope : Option ScopeId) : Action ω Prepared := do
  ensureOpen
  Statement.prepare env sql scope

/-- Begins a transaction. -/
def begin : Action ω Transaction := do
  ensureOpen
  ofAttempt (Transaction.start (← session))

/-- Closes the connection. -/
def close (env : Environment ω) : Action ω Unit := do
  let s ← session
  if s.isClosed then return
  note .info ("Closing connection to " ++ s.config.host)
  Session.close env

end ExaWire.Connection
