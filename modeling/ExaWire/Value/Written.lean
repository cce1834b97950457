/-
ExaWire/Value/Written.lean

Values as text.  `Value.written` shows a value so that its kind can be told: texts
in quotes, lists in brackets, decimals and dates by their constructors.
`Value.plain` shows texts, numbers and dates bare, and everything else as written.
-/
import ExaWire.Number.Shortest
import ExaWire.Text.Quoted
import ExaWire.Value.Calendar

namespace ExaWire

/-- Texts separated by a comma and a space. -/
def listed (parts : List (List Char)) : List Char := [',', ' '].intercalate parts

/-- A value that holds no other value. -/
def Value.writtenAtom : Value → List Char
  | .null => "None".toList
  | .bool b => (if b then "True" else "False").toList
  | .int n => (toString n).toList
  | .float x => x.text.toList
  | .decimal d => ("Decimal('" ++ d.text ++ "')").toList
  | .text s => Text.quoted s.toList
  | .bytes bs => Text.quotedBytes bs
  | .date d => d.written
  | .timestamp t => t.written
  | .list _ | .tuple _ | .object _ => []

mutual
/-- A value with its kind to be told. -/
def Value.written : Value → List Char
  | .list items => '[' :: listed (Value.writtenItems items) ++ [']']
  | .tuple items =>
    '(' :: listed (Value.writtenItems items) ++ (if items.length = 1 then [',', ')'] else [')'])
  | .object entries => '\x7b' :: listed (Value.writtenEntries entries) ++ ['\x7d']
  | v => v.writtenAtom
/-- The items of a list. -/
def Value.writtenItems : List Value → List (List Char)
  | [] => []
  | v :: vs => Value.written v :: Value.writtenItems vs
/-- The entries of an object. -/
def Value.writtenEntries : List (Value × Value) → List (List Char)
  | [] => []
  | (k, v) :: rest => (Value.written k ++ ':' :: ' ' :: Value.written v) :: Value.writtenEntries rest
end

/-- A value as plain text. -/
def Value.plain : Value → String
  | .text s => s
  | .decimal d => d.text
  | .date d => String.ofList d.literal
  | .timestamp t => String.ofList t.plain
  | v => String.ofList v.written

end ExaWire
