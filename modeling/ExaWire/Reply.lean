/-
ExaWire/Reply.lean

The records that replies are decoded into.  Decoding is lenient about missing
and empty fields and strict about everything else; it ends in the first fault
met, in the order of the fields.
-/
import ExaWire.Column

namespace ExaWire

/-- One page of a result set, column by column. -/
structure ResultPage where
  handle : Int := 0
  numColumns : Int := 0
  numRows : Int := 0
  numRowsInMessage : Int := 0
  columns : List Column := []
  data : List (List Value) := []

/-- The results of executed statements. -/
structure QueryReply where
  numResults : Int
  results : List Value

/-- A statement that the server has prepared. -/
structure PreparedReply where
  handle : Int
  columns : List Column
  numParameters : Int

/-- The server's public key, its numbers in hexadecimal. -/
structure KeyReply where
  modulus : String
  exponent : String
  pem : String := ""
deriving DecidableEq, Repr

/-- What the server tells about a new session. -/
structure LoginReply where
  sessionId : Int := 0
  protocolVersion : Int := 0
  releaseVersion : String := ""
  databaseName : String := ""
  productName : String := ""
  maxDataMessageSize : Int := 0
  timeZone : String := ""
deriving DecidableEq, Repr

/-- A count in an object. -/
def Value.countField (entries : List (Value × Value)) (key : String) : Attempt Int :=
  (Value.field entries key).toCount

/-- A text in an object; what does not count as given is empty. -/
def Value.nameField (entries : List (Value × Value)) (key : String) : String :=
  ((Value.field entries key).orElse (.text "")).plain

/-- A page from the data of a reply. -/
def ResultPage.ofValue (v : Value) : Attempt ResultPage := do
  let entries ← v.entries "result set"
  let handle ← Value.countField entries "resultSetHandle"
  let numColumns ← Value.countField entries "numColumns"
  let numRows ← Value.countField entries "numRows"
  let numRowsInMessage ← Value.countField entries "numRowsInMessage"
  let columns ← Column.listOfValue (Value.field entries "columns")
  let data ← ((Value.field entries "data").orElse (.list [])).items
  let data ← data.mapM Value.items
  .ok { handle, numColumns, numRows, numRowsInMessage, columns, data }

/-- Results from the data of a reply. -/
def QueryReply.ofValue (v : Value) : Attempt QueryReply := do
  let entries ← v.entries "execution result"
  let results := (Value.field entries "results").orElse (.list [])
  let numResults ← Value.countField entries "numResults"
  let results ← results.items
  .ok { numResults, results }

/-- The first result, which has to be an object. -/
def QueryReply.first (r : QueryReply) : Attempt (List (Value × Value)) :=
  if r.numResults = 0 then .error (.of .malformedResult "malformed result")
  else match r.results with
    | [] => .error (.of .malformedResult "malformed result")
    | v :: _ => v.entries "result"

/-- Whether a result is a result set. -/
def isResultSet (entries : List (Value × Value)) : Bool :=
  (Value.field entries "resultType").isText "resultSet"

/-- The result set that comes first; any other result is an empty one. -/
def QueryReply.firstResultSet (r : QueryReply) : Attempt ResultPage := do
  let entries ← r.first
  if isResultSet entries then
    ResultPage.ofValue ((Value.field entries "resultSet").orElse (.object []))
  else .ok {}

/-- The row count of the first result: rows affected, or the rows of a result set. -/
def QueryReply.firstRowCount (r : QueryReply) : Attempt Int := do
  let entries ← r.first
  if isResultSet entries then do
    let rows ← ((Value.field entries "resultSet").orElse (.object [])).member "numRows"
    rows.toCount
  else Value.countField entries "rowCount"

/-- The id of the last row inserted, which the protocol never tells. -/
def QueryReply.lastInsertId (r : QueryReply) : Attempt Int := do
  let _ ← r.firstRowCount
  .error (.of .noInsertId "no LastInsertId available")

/-- A prepared statement from the data of a reply. -/
def PreparedReply.ofValue (v : Value) : Attempt PreparedReply := do
  let entries ← v.entries "prepared statement"
  let parameters := (Value.field entries "parameterData").orElse (.object [])
  let columns ← parameters.member "columns"
  let columns ← Column.listOfValue columns
  let handle ← Value.countField entries "statementHandle"
  let count ← parameters.member "numColumns"
  let numParameters ← (count.orElse (.int columns.length)).toInt
  .ok { handle, columns, numParameters }

/-- A public key from the data of a reply. -/
def KeyReply.ofValue (v : Value) : Attempt KeyReply := do
  let entries ← v.entries "public key"
  .ok {
    modulus := Value.nameField entries "publicKeyModulus"
    exponent := Value.nameField entries "publicKeyExponent"
    pem := Value.nameField entries "publicKeyPem" }

/-- What a login reply tells. -/
def LoginReply.ofValue (v : Value) : Attempt LoginReply := do
  let entries ← v.entries "login"
  let sessionId ← Value.countField entries "sessionId"
  let protocolVersion ← Value.countField entries "protocolVersion"
  let maxDataMessageSize ← Value.countField entries "maxDataMessageSize"
  .ok {
    sessionId, protocolVersion, maxDataMessageSize
    releaseVersion := Value.nameField entries "releaseVersion"
    databaseName := Value.nameField entries "databaseName"
    productName := Value.nameField entries "productName"
    timeZone := Value.nameField entries "timeZone" }

end ExaWire
