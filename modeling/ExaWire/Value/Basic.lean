/-
ExaWire/Value/Basic.lean

The values that a caller binds and a server returns.  Requests and replies are
objects over them, so one type holds what the wire can carry and what a program
may hand in beside that: exact decimals, bytes, tuples, dates and timestamps.

An object keeps its entries in the order in which their keys were first given.
-/
import ExaWire.Number.Binary
import ExaWire.Number.Decimal
import ExaWire.Text.Utf8

namespace ExaWire

/-- A day of the calendar. -/
structure Date where
  year : Nat
  month : Nat
  day : Nat
deriving DecidableEq, Repr

/-- A day and a time of that day, with the offset from universal time in minutes if
one is known. -/
structure Timestamp where
  date : Date
  hour : Nat
  minute : Nat
  second : Nat
  microsecond : Nat
  offset : Option Int
deriving DecidableEq, Repr

/-- A dynamically typed value. -/
inductive Value
  | null
  | bool (b : Bool)
  | int (n : Int)
  | float (x : Binary)
  | decimal (d : Decimal)
  | text (s : String)
  | bytes (bs : Bytes)
  | list (items : List Value)
  | tuple (items : List Value)
  | object (entries : List (Value × Value))
  | date (d : Date)
  | timestamp (t : Timestamp)
deriving BEq, Repr

namespace Value

instance : Inhabited Value := ⟨.null⟩

/-- The name of a value's kind, as error texts give it. -/
def kindName : Value → String
  | .null => "NoneType"
  | .bool _ => "bool"
  | .int _ => "int"
  | .float _ => "float"
  | .decimal _ => "Decimal"
  | .text _ => "str"
  | .bytes _ => "bytes"
  | .list _ => "list"
  | .tuple _ => "tuple"
  | .object _ => "dict"
  | .date _ => "date"
  | .timestamp _ => "datetime"

/-- Whether a value counts as given: nulls, zeros and empty values do not. -/
def isGiven : Value → Bool
  | .null => false
  | .bool b => b
  | .int n => n ≠ 0
  | .float x => !x.isZero
  | .decimal (.finite _ c _) => c ≠ 0
  | .decimal _ => true
  | .text s => !s.isEmpty
  | .bytes bs => !bs.isEmpty
  | .list items | .tuple items => !items.isEmpty
  | .object entries => !entries.isEmpty
  | .date _ | .timestamp _ => true

/-- Whether a value is null. -/
def isNull : Value → Bool
  | .null => true
  | _ => false

/-- The value itself if it counts as given, otherwise a default. -/
def orElse (v default : Value) : Value := if v.isGiven then v else default

/-- Whether a value is the text `s`. -/
def isText (s : String) : Value → Bool
  | .text t => t = s
  | _ => false

/-- Whether a value is a number equal to zero; truth values count as numbers. -/
def isZero : Value → Bool
  | .bool b => !b
  | .int n => n = 0
  | .float x => x.isZero
  | .decimal (.finite _ c _) => c = 0
  | _ => false

/-- The entry of a text key. -/
def lookup? (key : String) : List (Value × Value) → Option Value
  | [] => none
  | (k, v) :: rest => if k.isText key then some v else lookup? key rest

/-- An object with text keys. -/
def ofFields (fields : List (String × Value)) : Value :=
  .object (fields.map fun (k, v) => (.text k, v))

end Value

end ExaWire
