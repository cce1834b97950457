/-
ExaWire/Script/Dialogue.lean

A dialogue: calls made one after the other on one client, whatever its wire.  The
caller keeps objects under names; making one on the connection forgets the old one
of that name, also if the making fails.

Between two calls the far end and the caller's scopes may change in any way.
-/
import ExaWire.Script.Call

namespace ExaWire.Script

/-- A dialogue so far: the client, whether a session was made, the caller's objects, and
the row that was filled last. -/
structure Dialogue (ω : Type) where
  client : Client ω
  hasSession : Bool := true
  objects : List (String × Object) := []
  row : List Value := []

/-- A part of a dialogue. -/
abbrev Stage (ω α : Type) := ExceptT Trouble (StateM (Dialogue ω)) α

namespace Stage

variable {o ω α : Type}

/-- The result of an attempt. -/
def ofAttempt : Attempt α → Stage ω α
  | .ok a => return a
  | .error f => throw (.failed f)

/-- An action of the client, which has to have a session. -/
def act (a : Action ω α) : Stage ω α := do
  let d ← get
  if d.hasSession then
    let (result, client) := a d.client
    set { d with client }
    ofAttempt result
  else throw .missing

/-- The object of a name. -/
def find (name : String) : Stage ω Object := do
  match (← get).objects.lookup name with
  | some object => return object
  | none => throw .missing

/-- Forgets the object of a name. -/
def forget (name : String) : Stage ω Unit :=
  modify fun d => { d with objects := d.objects.filter (·.1 ≠ name) }

/-- Keeps an object under a name. -/
def keep (name : String) (object : Object) : Stage ω Unit := do
  forget name
  modify fun d => { d with objects := (name, object) :: d.objects }

/-- An action on an object of the caller that stays under its name. -/
def onKept (name : String) (wrap : o → Object) (x : o) (a : Held o ω α) : Stage ω α := do
  let (result, x) ← act (a.on x)
  keep name (wrap x)
  ofAttempt result

/-- The refusal of an object that knows no such call. -/
def unfit : Stage ω α := ofAttempt (fault .noMember)

/-- An action on a cursor. -/
def onCursor (name : String) (a : Held Cursor ω α) : Stage ω α := do
  match ← find name with
  | .cursor c => onKept name .cursor c a
  | _ => unfit

/-- An action on a statement. -/
def onStatement (name : String) (a : Held Prepared ω α) : Stage ω α := do
  match ← find name with
  | .statement p => onKept name .statement p a
  | _ => unfit

/-- An action on a transaction. -/
def onTransaction (name : String) (a : Held Transaction ω α) : Stage ω α := do
  match ← find name with
  | .transaction t => onKept name .transaction t a
  | _ => unfit

/-- Opens a connection.  A failure leaves the session as it was. -/
def connect (a : Action ω Unit) : Stage ω Given := do
  let d ← get
  let (result, client) := a d.client
  match result with
  | .ok () =>
    set { d with client, hasSession := true }
    return .done
  | .error f =>
    set { d with client := { client with session := d.client.session, link := d.client.link } }
    throw (.failed f)

end Stage

open Stage

variable {o ω : Type}

/-- What the body of a block does that a transaction guards. -/
def Body.onTransaction (env : Environment ω) : Body → Held Transaction ω Unit
  | .nothing => pure ()
  | .interrupt => Held.ofAttempt (fault .interrupted)
  | .commit => Transaction.commit env
  | .rollback => Transaction.rollback env

/-- What the body of a block does that any other object guards. -/
def Body.onOther : Body → Held o ω Unit
  | .nothing => pure ()
  | .interrupt => Held.ofAttempt (fault .interrupted)
  | .commit | .rollback => Held.ofAttempt (fault .noMember)

/-- A block that the object of a name guards. -/
def Stage.guardObject (env : Environment ω) (name : String) (body : Body) : Stage ω Unit := do
  match ← find name with
  | .cursor c => onKept name .cursor c (Held.guarded body.onOther fun _ => Cursor.close env)
  | .statement p => onKept name .statement p (Held.guarded body.onOther fun _ => Prepared.close env)
  | .transaction t =>
    onKept name .transaction t (Held.guarded (body.onTransaction env) (Transaction.leave env))

/-- Closes the object of a name. -/
def Stage.closeObject (env : Environment ω) (name : String) : Stage ω Unit := do
  match ← find name with
  | .cursor c => onKept name .cursor c (Cursor.close env)
  | .statement p => onKept name .statement p (Prepared.close env)
  | .transaction _ => unfit

/-- Makes a cursor and keeps it. -/
def keepCursor (name : String) (make : Stage ω Cursor) : Stage ω Given := do
  forget name
  let cursor ← make
  keep name (.cursor cursor)
  return .ofCursor cursor

/-- Makes a transaction and keeps it. -/
def keepTransaction (name : String) (make : Action ω Transaction) : Stage ω Given := do
  forget name
  keep name (.transaction (← act make))
  return .done

/-- Makes a call on the object of a name, under a scope if there is one. -/
def Call.perform (env : Environment ω) (name : String) (scope : Option ScopeId) :
    Call → Stage ω Given
  | .connect config => Stage.connect (Connection.connect env config scope)
  | .connectTo dsn => Stage.connect (Connection.connectTo env dsn scope)
  | .login => act (return .record (.login (← Session.login env scope)))
  | .send request (some kind) =>
    act (return .record (← Session.send env request (kind.read ·) scope))
  | .send request none => act do
    Session.send env request Session.noData scope
    return .done
  | .info => act do
    match (← Action.session).info with
    | some told => return .record (.login told)
    | none => return .done
  | .flags => act do
    let s ← Action.session
    return .value (.list
      [.bool s.isClosed, .bool s.config.autocommit, .bool s.compressing, .bool !s.isClosed])
  | .execute sql values => act (return .number (← Connection.execute env sql values scope))
  | .query sql values => keepCursor name (act (Connection.query env sql values scope))
  | .prepare sql => do
    forget name
    let statement ← act (Connection.prepare env sql scope)
    keep name (.statement statement)
    return .ofPrepared statement
  | .begin => keepTransaction name Connection.begin
  | .run sql values => act (return .ofResults (← Statement.run env sql values scope))
  | .once sql values => act do
    let reply ← Statement.once env sql values scope
    return .number (← Action.ofAttempt reply.firstRowCount)
  | .closeSession => act do
    Session.close env
    return .done
  | .guardSession => act do
    Action.guarded (pure ()) (Session.close env)
    return .done
  | .close => act do
    Connection.close env
    return .done
  | .guardConnection sql values => act do
    let rows ← Action.guarded (Connection.execute env sql values scope) (Connection.close env)
    return .number rows
  | .startTransaction => keepTransaction name (return .on (← Action.session))
  | .commit => onTransaction name do
    Transaction.commit env
    return .done
  | .rollback => onTransaction name do
    Transaction.rollback env
    return .done
  | .fetchOne => onCursor name do
    return .value (((← Cursor.next env).map .tuple).getD .null)
  | .fetchAll => onCursor name (return .value (.list ((← Cursor.rest env).map .tuple)))
  | .columnInfo => onCursor name (return .columns ((← Held.object).columns.map Column.info))
  | .nextInto row => do
    let (row, result) ← onCursor name (Cursor.nextInto env row)
    modify fun d => { d with row }
    return .value (.bool (← ofAttempt result))
  | .lastRow => return .value (.list (← get).row)
  | .queryPrepared cursorName values => do
    let cursor ← onStatement name (Prepared.query env values scope)
    keep cursorName (.cursor cursor)
    return .ofCursor cursor
  | .executePrepared values => onStatement name do
    return .ofResults (← Prepared.execute env values scope)
  | .countPrepared values => onStatement name do
    let reply ← Prepared.execute env values scope
    return .number (← Held.ofAttempt reply.firstRowCount)
  | .bind values => onStatement name do
    let p ← Held.object
    return .ofBatch (← Held.ofAttempt (Parameter.Batch.build p.columns values))
  | .closeObject => do
    Stage.closeObject env name
    return .done
  | .guardObject body => do
    Stage.guardObject env name body
    return .done

/-- The name of the object that a call is about: the one that it makes, if it makes one. -/
def Call.subject (name : String) : Call → String
  | .queryPrepared cursor _ => cursor
  | _ => name

/-- A call as it is made: on the object of a name, under a scope if there is one, and what
became of the far end and of the scopes since the call before. -/
structure Move (ω : Type) where
  call : Call
  name : String := "x"
  scope : Option ScopeId := none
  meanwhile : ω × Scopes → ω × Scopes := id

/-- The client when a call begins. -/
def Move.meet (m : Move ω) (c : Client ω) : Client ω :=
  let (wire, scopes) := m.meanwhile (c.wire, c.scopes)
  { c with wire, scopes }

/-- Makes a call. -/
def Dialogue.make (env : Environment ω) (d : Dialogue ω) (m : Move ω) :
    Except Trouble Given × Dialogue ω :=
  m.call.perform env m.name m.scope { d with client := m.meet d.client }

end ExaWire.Script
