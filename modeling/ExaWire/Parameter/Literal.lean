/-
ExaWire/Parameter/Literal.lean

How a bound value is written for the type of its column, and how a value of a
result is read for it.

* `DOUBLE` takes any real number and writes it with exactly six places, so that
  the server reads a fixed-point number; numbers that are not finite are refused, and
  a decimal with more digits than can be written is no value.
* Timestamps and dates take texts as they are and write calendar values by their
  wall-clock fields.
* `BOOLEAN` takes truth values only; every other type takes any value as it is.
-/
import ExaWire.Column
import ExaWire.Value.Calendar

namespace ExaWire.Parameter

/-- The places of a `DOUBLE`. -/
def doublePlaces : Nat := 6

/-- The refusal of a value for a type. -/
def refuse {α : Type} (v : Value) (dataType : String) : Attempt α :=
  .error (.argument v dataType)

/-- A value as a number: decimals stay as they are, everything else goes through the
nearest binary number. -/
def toBinary : Value → Attempt Binary
  | .bool b => .ok (Binary.ofInt (if b then 1 else 0))
  | .int n =>
    let x := Binary.ofInt n
    if x.isFinite then .ok x else refuse (.int n) "DOUBLE"
  | .float x => .ok x
  | .text s => orBadValue (Binary.ofText? s)
  | .bytes bs => if isAscii bs then orBadValue (Binary.ofText? (latin bs)) else fault .badValue
  | _ => fault .wrongKind

/-- Whether a value is a finite decimal with more digits than can be written. -/
def isOverlong : Value → Bool
  | .decimal (.finite _ c e) => Decimal.isOverlong doublePlaces c e
  | _ => false

/-- A number with a fraction of six digits. -/
def doubleLiteral (v : Value) : Attempt Decimal :=
  if isOverlong v then fault .badValue
  else match v with
    | .decimal (.finite negative c e) => .ok (Decimal.fixed doublePlaces negative c e)
    | .decimal _ => refuse v "DOUBLE"
    | v => do
      match ← toBinary v with
      | .finite negative m e =>
        .ok (.finite negative (Binary.fixedUnits m e doublePlaces) (-(doublePlaces : Int)))
      | x => refuse (.float x) "DOUBLE"

/-- The wall-clock text of a timestamp. -/
def timestampLiteral : Value → Attempt String
  | .timestamp t => .ok (String.ofList t.literal)
  | _ => fault .noMember

/-- The text of a day, or of the day of a timestamp. -/
def dateLiteral : Value → Attempt String
  | .date d => .ok (String.ofList d.literal)
  | .timestamp t => .ok (String.ofList t.date.literal)
  | _ => fault .noMember

/-- The types whose values are timestamps. -/
def timestampTypes : List String := ["TIMESTAMP", "TIMESTAMP WITH LOCAL TIME ZONE"]

/-- A value as a column of the type takes it. -/
def convert (v : Value) (t : ColumnType) : Attempt Value :=
  if t.name = "DOUBLE" then
    match v with
    | .int _ | .float _ | .decimal _ => (doubleLiteral v).map .decimal
    | _ => refuse v t.name
  else if timestampTypes.contains t.name then
    match v with
    | .text _ => .ok v
    | .timestamp _ => (timestampLiteral v).map .text
    | _ => refuse v t.name
  else if t.name = "DATE" then
    match v with
    | .text _ => .ok v
    | .date _ | .timestamp _ => (dateLiteral v).map .text
    | _ => refuse v t.name
  else if t.name = "BOOLEAN" then
    match v with
    | .bool _ => .ok v
    | _ => refuse v t.name
  else .ok v

/-- A decimal that is too long becomes nothing that could be sent. -/
theorem convert_overlong {v : Value} {t : ColumnType} (double : t.name = "DOUBLE")
    (long : isOverlong v = true) : convert v t = fault .badValue := by
  have literal : doubleLiteral v = fault .badValue := if_pos long
  unfold convert
  rw [if_pos double]
  cases v with
  | decimal d =>
    show (doubleLiteral (.decimal d)).map Value.decimal = fault .badValue
    rw [literal]
    rfl
  | _ => cases long

/-- A value of a result as its column's type has it: a decimal without places that came
as a binary number is an integer. -/
def ofResult (v : Value) (t : ColumnType) : Attempt Value :=
  match v with
  | .float _ => if t.name = "DECIMAL" && t.scale.isZero then v.toInt.map .int else .ok v
  | _ => .ok v

end ExaWire.Parameter
