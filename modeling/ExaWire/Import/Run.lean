/-
ExaWire/Import/Run.lean

Imports of local files.  The statement is read, all its files are opened, an
endpoint is dialled and negotiated, and only then the redirected statement is
executed while the files are uploaded.  Whatever was acquired on the way is
released in reverse order, however the import ends.

The statement runs first and the upload goes on whenever the statement waits; what
is left of it runs when the statement has ended.
-/
import ExaWire.Client.Basic
import ExaWire.Import.Redirect

namespace ExaWire.Import

open ExaWire.Action

variable {ω α : Type}

/-- Opens files in order; gives those that were opened, and the failure if one is
missing. -/
def openFiles (env : Environment ω) : List String → List (String × LocalFile) × Attempt Unit
  | [] => ([], .ok ())
  | path :: paths =>
    match env.files path with
    | none => ([], .error (.noFile path))
    | some file =>
      let (opened, result) := openFiles env paths
      ((path, file) :: opened, result)

/-- A step of the endpoint that yields a result and notes. -/
def atEndpoint (step : Endpoint → Attempt α × Endpoint × List Note) : Action ω α := fun c =>
  match c.endpoint with
  | none => (.error Endpoint.closedFailure, c)
  | some e =>
    let (result, e, notes) := step e
    (result, { c with endpoint := some e }.annotate notes)

/-- Ends the connection to the endpoint, if there is one. -/
def closeEndpoint : Action ω Unit := update fun c =>
  match c.endpoint with
  | none => c
  | some e =>
    let (e, events, notes) := e.close
    ({ c with endpoint := some e }.record (events.map .network)).annotate notes

/-- Dials the hosts of an endpoint. -/
def dial (env : Environment ω) (hosts : List String) (port : Int) : Action ω Unit := fun c =>
  let (result, events) := Endpoint.dial env.directory c.dials hosts port
  let c := { c with dials := c.dials + events.length }.record (events.map .network)
  match result with
  | .ok e => (.ok (), { c with endpoint := some e })
  | .error f => (.error f, c)

/-- Runs a statement and an upload under one scope until both have ended.  The failure for
which the supervisor gave up is the failure of the whole. -/
def supervise (errand : Errand) (execute : Action ω α) : Action ω α := do
  update fun c => { c with errand := some errand }
  let result ← attempt execute
  let ended : Option (Attempt α) := some result
  -- a statement that failed ends the upload; any other waits for it
  update (Client.advance (Progress.judge ended))
  update (Client.advance fun p => p.upload.judge ended)
  let verdict := (← get).errand.bind (·.verdict)
  update fun c => { c with errand := none }
  match verdict with
  | some f => throw f
  | none => ofAttempt result

/-- Negotiates an endpoint over a connection that was made, and loads from there. -/
def transfer (job : Job) (scope : ScopeId) (files : List LocalFile)
    (execute : String → ScopeId → Action ω α) : Action ω α := do
  let _ ← atEndpoint Endpoint.negotiate
  let url := ((← get).endpoint.map Endpoint.url).getD ""
  let job ← ofAttempt (job.bindTo url)
  note .debug ("Importing " ++ toString files.length ++ " file(s) through " ++ url)
  supervise { scope, separator := job.separator, files } (execute job.redirected scope)

/-- What an import does once its files are open: it reaches an endpoint and loads from
there. -/
def load (env : Environment ω) (job : Job) (spec : String) (port : Int) (scope : ScopeId)
    (files : List LocalFile) (execute : String → ScopeId → Action ω α) : Action ω α := do
  let hosts ← candidates env spec
  dial env hosts port
  guarded (transfer job scope files execute) closeEndpoint

/-- Runs an import: `execute` is given the redirected statement and the scope of the
import, a child of the caller's. -/
def run (env : Environment ω) (spec : String) (port : Int) (sql : String)
    (execute : String → ScopeId → Action ω α) (parent : Option ScopeId) : Action ω α := do
  let job ← ofAttempt (Job.ofStatement sql)
  let scope ← fun c =>
    let (id, scopes) := c.scopes.create .none parent
    (.ok id, { c with scopes })
  let (opened, result) := openFiles env job.paths
  update (Client.record (opened.map fun f => .opened f.1))
  let result ← attempt do
    ofAttempt result
    load env job spec port scope (opened.map (·.2)) execute
  update (Client.record (opened.reverse.map fun f => .released f.1))
  ofAttempt result

end ExaWire.Import
