/-
ExaWire/Script/Loading.lean

An import whose statement is scripted: instead of a server that executes it there
is a fixed end, and what the import gave to the statement is kept.
-/
import ExaWire.Import.Run
import ExaWire.Script.Play

namespace ExaWire.Script

open Network

/-- How the statement goes. -/
inductive Execution
  | succeeds
  | fails
  /-- it waits until its scope is cancelled -/
  | waits
deriving DecidableEq, Repr

/-- What a statement was given: its text and the scope of the import. -/
structure Order where
  statement : String
  scope : ScopeId

/-- A wire that nobody is at; its state is free for other use. -/
def deadWire (ω : Type) : Wire ω where
  send _ w := { result := .error "nobody is there", rest := w }
  poll w := { result := .error "nobody is there", rest := w }
  receive w := { result := .ok none, rest := w }
  close w := { result := .ok (), rest := w }
  patience _ := 0
  patience_lt _ h := by simp at h

/-- The failure of a statement that is scripted to fail. -/
def statementFailure : Failure := .sql "42636" "ETL-5105 invalid data"

/-- Executes a statement; the order is kept as the state of the wire. -/
def Execution.perform (e : Execution) (statement : String) (scope : ScopeId) :
    Action (Option Order) String := do
  Action.update fun c => { c with wire := some ⟨statement, scope⟩ }
  match e with
  | .succeeds => return "executed"
  | .fails => throw statementFailure
  | .waits =>
    Action.update Client.idle
    throw (.cancelled ((← Action.poll scope).getD .byCaller))

/-- What can be seen of an import. -/
structure Loading where
  result : Attempt String
  /-- the statement, if it was executed -/
  statement : Option String
  /-- whether the scope of the import is cancelled in the end, if the statement was
  executed -/
  isCancelled : Option Bool
  events : List Event
  /-- the socket that was dialled -/
  socket : Option Socket

/-- Runs an import in a setting. -/
def Loading.play (setting : Setting) (plan : Option Plan) (spec : String) (port : Int)
    (sql : String) (execution : Execution) : Loading :=
  let arranged := (plan.getD []).arrange []
  let env : Environment (Option Order) := {
    wire := deadWire _
    codec := setting.codec
    padding := setting.padding
    station := setting.station
    directory := directory setting.hosts arranged.alarms
    files := Files.file? setting.files }
  let (result, c) := Import.run env spec port sql execution.perform arranged.scope
    { wire := none, scopes := arranged.scopes }
  { result
    statement := c.wire.map (·.statement)
    isCancelled := c.wire.map fun order => (c.scopes.poll order.scope).1.isSome
    events := c.happenings.filterMap fun | .network e => some e | _ => none
    socket := c.endpoint.map (·.socket) }

end ExaWire.Script
