/-
ExaWire/Command.lean

The commands of the protocol, as the objects that are sent.  Attributes that are
not set are left out.
-/
import ExaWire.Column

namespace ExaWire.Command

/-- A command by its name. -/
def named (name : String) (fields : List (String × Value)) : Value :=
  .ofFields (("command", .text name) :: fields)

/-- Attributes of a session or of a statement.  A null flag is not set, nor is any other
attribute that does not count as given: an empty schema, a zero. -/
structure Attributes where
  autocommit : Value := .null
  compressionEnabled : Value := .null
  currentSchema : Value := .null
  queryTimeout : Value := .null
  resultSetMaxRows : Value := .null

/-- The object of the attributes that are set. -/
def Attributes.toValue (a : Attributes) : Value :=
  let flag (key : String) (v : Value) := if v.isNull then [] else [(key, v)]
  let setting (key : String) (v : Value) := if v.isGiven then [(key, v)] else []
  .ofFields (flag "autocommit" a.autocommit ++ flag "compressionEnabled" a.compressionEnabled ++
    setting "currentSchema" a.currentSchema ++ setting "queryTimeout" a.queryTimeout ++
    setting "resultSetMaxRows" a.resultSetMaxRows)

/-- The attributes of a statement: a limit on the rows of its result, if there is one. -/
def rowLimit (maxRows : Value) : Value := ({ resultSetMaxRows := maxRows } : Attributes).toValue

/-- The start of a login with user and password. -/
def login (version : Value) : Value := named "login" [("protocolVersion", version)]

/-- The start of a login with a token. -/
def loginToken (version : Value) : Value := named "loginToken" [("protocolVersion", version)]

/-- The end of a session. -/
def disconnect : Value := named "disconnect" []

/-- The end of the request under way. -/
def abortQuery : Value := named "abortQuery" []

/-- The execution of a statement. -/
def execute (sql maxRows : Value) : Value :=
  named "execute" [("sqlText", sql), ("attributes", rowLimit maxRows)]

/-- The preparation of a statement. -/
def createPrepared (sql : Value) : Value := named "createPreparedStatement" [("sqlText", sql)]

/-- The execution of a prepared statement with parameters, column by column; the
columns are described again, unless there are none. -/
def executePrepared (handle : Value) (columns : List Column) (numRows data maxRows : Value) :
    Value :=
  named "executePreparedStatement"
    ([("statementHandle", handle), ("numRows", numRows), ("data", data),
        ("attributes", rowLimit maxRows)] ++
      (if columns.isEmpty then []
      else [("numColumns", .int columns.length), ("columns", .list (columns.map Column.toValue))]))

/-- The release of a prepared statement. -/
def closePrepared (handle : Value) : Value :=
  named "closePreparedStatement" [("statementHandle", handle)]

/-- The request for a page of a result set: rows from a position on, up to a size. -/
def fetch (handle position bytes : Value) : Value :=
  named "fetch"
    [("resultSetHandle", handle), ("startPosition", position), ("numBytes", bytes)]

/-- The release of result sets. -/
def closeResultSet (handles : List Value) : Value :=
  named "closeResultSet" [("resultSetHandles", .list handles)]

end ExaWire.Command
