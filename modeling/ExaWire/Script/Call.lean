/-
ExaWire/Script/Call.lean

What a caller may ask for in a dialogue, and what it is given.

A call names the object that it works on, or the one that it makes: a cursor, a
statement or a transaction.
-/
import ExaWire.Connection
import ExaWire.Record

namespace ExaWire.Script

/-- What the body of a guarded block does. -/
inductive Body
  | nothing
  | interrupt
  | commit
  | rollback
deriving DecidableEq, Repr

/-- A call. -/
inductive Call
  | connect (config : Config)
  | connectTo (dsn : String)
  | login
  | send (request : Value) (kind : Option RecordKind)
  | info
  | flags
  | execute (sql : String) (values : Value)
  | query (sql : String) (values : Value)
  | prepare (sql : String)
  | begin
  | run (sql : String) (values : Value)
  | once (sql : String) (values : Value)
  | closeSession
  /-- a block that the session guards -/
  | guardSession
  | close
  /-- a block that the connection guards, with a statement in it -/
  | guardConnection (sql : String) (values : Value)
  /-- a transaction begun whatever the settings -/
  | startTransaction
  | commit
  | rollback
  | fetchOne
  | fetchAll
  | columnInfo
  | nextInto (row : List Value)
  /-- the row that was filled last -/
  | lastRow
  | queryPrepared (cursor : String) (values : Value)
  | executePrepared (values : Value)
  | countPrepared (values : Value)
  | bind (values : Value)
  | closeObject
  /-- a block that the object guards -/
  | guardObject (body : Body)

/-- What a call gives. -/
inductive Given
  | value (v : Value)
  | record (r : Record)
  | prepared (handle numInput : Int) (columns : List Column)
  | columns (infos : List ColumnInfo)

/-- An object that a caller holds. -/
inductive Object
  | cursor (c : Cursor)
  | statement (p : Prepared)
  | transaction (t : Transaction)

/-- Why a call gives nothing. -/
inductive Trouble
  /-- there is no such object -/
  | missing
  | failed (f : Failure)

namespace Given

/-- Nothing but success. -/
def done : Given := .value .null

/-- A number. -/
def number (n : Int) : Given := .value (.int n)

/-- What is told of a new cursor. -/
def ofCursor (c : Cursor) : Given :=
  .value (.list [.list (c.names.map .text), .int c.total])

/-- What is told of a new statement. -/
def ofPrepared (p : Prepared) : Given := .prepared p.handle p.numInput p.columns

/-- All results. -/
def ofResults (r : QueryReply) : Given := .value (.list [.int r.numResults, .list r.results])

/-- A batch of parameters. -/
def ofBatch (b : Parameter.Batch) : Given :=
  .value (.list [.int b.numRows, b.wireData])

end Given

end ExaWire.Script
