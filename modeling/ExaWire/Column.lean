/-
ExaWire/Column.lean

Columns of results and parameters: a name and a type with up to seven
attributes, each any value the server chose to send.  Reading a descriptor and
writing it again gives the same descriptor, less unknown keys and nulls; zeros,
empty texts and `false` are kept.
-/
import ExaWire.Value.Coercion

namespace ExaWire

/-- The type of a column; an attribute that was not given is null. -/
structure ColumnType where
  name : String
  precision : Value := .null
  scale : Value := .null
  size : Value := .null
  characterSet : Value := .null
  withLocalTimeZone : Value := .null
  fraction : Value := .null
  srid : Value := .null
deriving Repr

/-- A column of a result or a parameter of a statement. -/
structure Column where
  name : String
  dataType : ColumnType
deriving Repr

/-- The entries of a value that has to be an object. -/
def Value.entries (what : String) : Value → Attempt (List (Value × Value))
  | .object entries => .ok entries
  | v => .error (.protocol true
      ("expected a JSON object for " ++ what ++ ", got " ++ v.kindName) .null .none)

/-- A text field, empty if it is missing; any value is shown as text. -/
def Value.textField (entries : List (Value × Value)) (key : String) : String :=
  match lookup? key entries with
  | some v => v.plain
  | none => ""

namespace ColumnType

/-- The attributes by their names on the wire, in the order in which they are
written. -/
def attributes (t : ColumnType) : List (String × Value) :=
  [("precision", t.precision), ("scale", t.scale), ("size", t.size),
    ("characterSet", t.characterSet), ("withLocalTimeZone", t.withLocalTimeZone),
    ("fraction", t.fraction), ("srid", t.srid)]

/-- A type from its descriptor. -/
def ofValue (v : Value) : Attempt ColumnType := do
  let entries ← v.entries "column type"
  let get := Value.field entries
  .ok {
    name := Value.textField entries "type"
    precision := get "precision"
    scale := get "scale"
    size := get "size"
    characterSet := get "characterSet"
    withLocalTimeZone := get "withLocalTimeZone"
    fraction := get "fraction"
    srid := get "srid" }

/-- Whether a value is null. -/
def isNull : Value → Bool
  | .null => true
  | _ => false

/-- The descriptor of a type: its name and the attributes that are not null. -/
def toValue (t : ColumnType) : Value :=
  .ofFields (("type", .text t.name) :: t.attributes.filter fun (_, v) => !isNull v)

end ColumnType

namespace Column

/-- A column from its descriptor; a type that does not count as given has no name. -/
def ofValue (v : Value) : Attempt Column := do
  let entries ← v.entries "column"
  let dataType ← ColumnType.ofValue ((Value.field entries "dataType").orElse (.object []))
  .ok ⟨Value.textField entries "name", dataType⟩

/-- The descriptor of a column. -/
def toValue (c : Column) : Value :=
  .ofFields [("name", .text c.name), ("dataType", c.dataType.toValue)]

/-- Columns from the descriptors that a value lists; one that does not count as given
lists none. -/
def listOfValue (v : Value) : Attempt (List Column) := do
  let items ← (v.orElse (.list [])).items
  items.mapM ofValue

end Column

/-- How values of a column are best read by the caller. -/
inductive ScanKind
  | bytes | bool | float | object
deriving DecidableEq, Repr

/-- The types whose values are read as raw bytes. -/
def rawTypes : List String :=
  ["VARCHAR", "CHAR", "GEOMETRY", "HASHTYPE", "INTERVAL DAY TO SECOND", "INTERVAL YEAR TO MONTH"]

/-- How values of a type are best read. -/
def ScanKind.ofType (name : String) : ScanKind :=
  if rawTypes.contains name then .bytes
  else if name = "BOOLEAN" then .bool
  else if name = "DOUBLE" then .float
  else .object

/-- What a caller can ask about a column. -/
structure ColumnInfo where
  name : String
  typeName : String
  precision : Value
  scale : Value
  length : Value
  scan : ScanKind
  nullable : Bool := true

/-- What is known about a column. -/
def Column.info (c : Column) : ColumnInfo where
  name := c.name
  typeName := c.dataType.name
  precision := c.dataType.precision
  scale := c.dataType.scale
  length := c.dataType.size
  scan := .ofType c.dataType.name

/-- Precision and scale, if both are given. -/
def ColumnInfo.precisionScale? (i : ColumnInfo) : Option (Value × Value) :=
  if ColumnType.isNull i.precision || ColumnType.isNull i.scale then none
  else some (i.precision, i.scale)

end ExaWire
