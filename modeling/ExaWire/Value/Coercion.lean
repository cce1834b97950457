/-
ExaWire/Value/Coercion.lean

Values used as what they need not be.  Replies are read leniently: a count may
come as a number, a text or a truth value, and each reading either gives what
was asked for or ends in the fault that says why it could not.
-/
import ExaWire.Failure
import ExaWire.Number.Reading

namespace ExaWire

/-- An operation on values: a result, or the failure that ended it. -/
abbrev Attempt (α : Type) := Except Failure α

/-- The end of an attempt in a fault. -/
def fault {α : Type} (f : Fault) : Attempt α := .error (.fault f)

/-- A conversion that may have no result. -/
def orBadValue {α : Type} : Option α → Attempt α
  | some a => .ok a
  | none => fault .badValue

/-- Bytes taken as characters, one for each. -/
def latin (bs : Bytes) : String := String.ofList (bs.map fun b => Char.ofNat b.toNat)

/-- Whether all bytes are ASCII. -/
def isAscii (bs : Bytes) : Bool := bs.all (·.toNat < 128)

namespace Value

/-- The value as an integer.  Numbers are cut towards zero, texts are read in base
ten; an infinite number is too great. -/
def toInt : Value → Attempt Int
  | .bool b => .ok (if b then 1 else 0)
  | .int n => .ok n
  | .float (.finite negative m e) => .ok (Binary.truncate negative m e)
  | .float (.infinite _) => fault .tooGreat
  | .float .nan => fault .badValue
  | .decimal (.finite negative c e) => .ok (Decimal.truncate negative c e)
  | .decimal (.infinite _) => fault .tooGreat
  | .decimal (.nan _ _ _) => fault .badValue
  | .text s => orBadValue (readInt? s)
  | .bytes bs => if isAscii bs then orBadValue (readInt? (latin bs)) else fault .badValue
  | _ => fault .wrongKind

/-- The count that a value gives, where one that does not count as given is zero. -/
def toCount (v : Value) : Attempt Int := (v.orElse (.int 0)).toInt

/-- The items of a value: those of a list, the characters of a text, the bytes of a
byte sequence, the keys of an object. -/
def items : Value → Attempt (List Value)
  | .list vs | .tuple vs => .ok vs
  | .text s => .ok (s.toList.map fun c => .text (String.singleton c))
  | .bytes bs => .ok (bs.map fun b => .int b.toNat)
  | .object entries => .ok (entries.map (·.1))
  | _ => fault .wrongKind

/-- The member of an object under a text key, null if there is none. -/
def member (v : Value) (key : String) : Attempt Value :=
  match v with
  | .object entries => .ok ((lookup? key entries).getD .null)
  | _ => fault .noMember

/-- The entry of an object known to be one. -/
def field (entries : List (Value × Value)) (key : String) : Value :=
  (lookup? key entries).getD .null

end Value

end ExaWire
