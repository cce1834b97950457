/-
ExaWire/Json/Writer.lean

Values written as JSON, in ASCII only.  Items are separated by a comma and a
space, keys and values by a colon and a space; a character outside the printable
ASCII range is written by its 16-bit units in lower-case hexadecimal.  Binary
numbers are written with the fewest digits, decimals with their own text.

What has no JSON form ends the writing in a fault: numbers that are not finite,
dates, bytes that are no text, and keys that are neither texts nor plain values.
-/
import ExaWire.Value.Coercion

namespace ExaWire.Json

/-- The 16-bit units of a character: itself, or a high and a low surrogate. -/
def units (c : Char) : List Nat :=
  let n := c.toNat
  if n < 0x10000 then [n]
  else [0xd800 + (n - 0x10000) / 0x400, 0xdc00 + (n - 0x10000) % 0x400]

/-- A 16-bit unit as an escape. -/
def unitEscape (n : Nat) : List Char := '\\' :: 'u' :: Text.hexText 4 n

/-- How one character of a text is written. -/
def escapeChar (c : Char) : List Char :=
  if c = '"' then ['\\', '"']
  else if c = '\\' then ['\\', '\\']
  else if c = '\n' then ['\\', 'n']
  else if c = '\r' then ['\\', 'r']
  else if c = '\t' then ['\\', 't']
  else if c = '\x08' then ['\\', 'b']
  else if c = '\x0c' then ['\\', 'f']
  else if 0x20 ≤ c.toNat ∧ c.toNat < 0x7f then [c]
  else (units c).flatMap unitEscape

/-- A text between double quotes. -/
def writeText (cs : List Char) : List Char := '"' :: cs.flatMap escapeChar ++ ['"']

/-- An integer; one with too many digits is refused rather than written. -/
def writeInt (n : Int) : Attempt (List Char) :=
  if isWritable n then .ok (toString n).toList else fault .badValue

/-- A value that holds no other value. -/
def writeAtom : Value → Attempt (List Char)
  | .null => .ok "null".toList
  | .bool b => .ok (if b then "true" else "false").toList
  | .int n => writeInt n
  | .float x => if x.isFinite then .ok x.text.toList else fault .badValue
  | .decimal d => if d.isFinite then .ok d.text.toList else fault .badValue
  | .text s => .ok (writeText s.toList)
  | .bytes bs => (orBadValue (Utf8.decode? bs)).map writeText
  | _ => fault .wrongKind

/-- A key: a text, or the text of a plain value. -/
def writeKey : Value → Attempt (List Char)
  | .text s => .ok (writeText s.toList)
  | .bytes bs => (orBadValue (Utf8.decode? bs)).map writeText
  | .null => .ok (writeText "null".toList)
  | .bool b => .ok (writeText (if b then "true" else "false").toList)
  | .int n => (writeInt n).map writeText
  | .float x => if x.isFinite then .ok (writeText x.text.toList) else fault .badValue
  | .decimal d => if d.isFinite then .ok (writeText d.text.toList) else fault .badValue
  | _ => fault .wrongKind

mutual
/-- A value as JSON. -/
def write : Value → Attempt (List Char)
  | .list items | .tuple items => do
    let parts ← writeItems items
    .ok ('[' :: listed parts ++ [']'])
  | .object entries => do
    let parts ← writeEntries entries
    .ok ('\x7b' :: listed parts ++ ['\x7d'])
  | v => writeAtom v
/-- The items of a list. -/
def writeItems : List Value → Attempt (List (List Char))
  | [] => .ok []
  | v :: vs => do
    let part ← write v
    let parts ← writeItems vs
    .ok (part :: parts)
/-- The entries of an object. -/
def writeEntries : List (Value × Value) → Attempt (List (List Char))
  | [] => .ok []
  | (k, v) :: rest => do
    let key ← writeKey k
    let part ← write v
    let parts ← writeEntries rest
    .ok ((key ++ ':' :: ' ' :: part) :: parts)
end

end ExaWire.Json
