/-
ExaWire/Json/Reader.lean

JSON read strictly: no trailing commas, no comments, no raw control characters
in a text, and no number that is not finite.  A byte order mark in front is
skipped.  Numbers with a point or an exponent become binary numbers, others
integers; of a repeated key the last value counts, at the place of the first.
-/
import ExaWire.Text.Cut
import ExaWire.Value.Coercion

namespace ExaWire.Json

/-- The refusal of a text that is no JSON. -/
def refuse {α : Type} : Attempt α := fault .notJson

/-- The white space of JSON. -/
def isSpace (c : Char) : Bool := c = ' ' || c = '\t' || c = '\n' || c = '\r'

/-- The text behind any white space. -/
def skipSpace (cs : List Char) : List Char := cs.dropWhile isSpace

/-- The value of a hexadecimal digit. -/
def hexDigit? (c : Char) : Option Nat :=
  let n := c.toNat
  if 48 ≤ n ∧ n ≤ 57 then some (n - 48)
  else if 97 ≤ n ∧ n ≤ 102 then some (n - 87)
  else if 65 ≤ n ∧ n ≤ 70 then some (n - 55)
  else none

/-- The unit that four hexadecimal digits give. -/
def unit? (a b c d : Char) : Option Nat := do
  let a ← hexDigit? a
  let b ← hexDigit? b
  let c ← hexDigit? c
  let d ← hexDigit? d
  some (((a * 16 + b) * 16 + c) * 16 + d)

/-- The character of an escape by one letter. -/
def shortEscape? (c : Char) : Option Char :=
  if c = '"' ∨ c = '\\' ∨ c = '/' then some c
  else if c = 'b' then some '\x08'
  else if c = 'f' then some '\x0c'
  else if c = 'n' then some '\n'
  else if c = 'r' then some '\r'
  else if c = 't' then some '\t'
  else none

/-- The code points and escaped units of a text up to its closing quote, and what
follows that. -/
def readUnits : List Char → Option (List Nat × List Char)
  | [] => none
  | c :: cs =>
    if c = '"' then some ([], cs)
    else if c = '\\' then
      match cs with
      | [] => none
      | e :: rest =>
        match shortEscape? e with
        | some c => (readUnits rest).map fun (ns, tail) => (c.toNat :: ns, tail)
        | none =>
          if e = 'u' then
            match rest with
            | a :: b :: c :: d :: rest =>
              match unit? a b c d with
              | some n => (readUnits rest).map fun (ns, tail) => (n :: ns, tail)
              | none => none
            | _ => none
          else none
    else if c.toNat < 0x20 then none
    else (readUnits cs).map fun (ns, tail) => (c.toNat :: ns, tail)

/-- A high surrogate. -/
def isHigh (n : Nat) : Bool := 0xd800 ≤ n && n < 0xdc00

/-- A low surrogate. -/
def isLow (n : Nat) : Bool := 0xdc00 ≤ n && n < 0xe000

/-- The character of a code point; a surrogate without its partner is shown as
U+FFFD. -/
def charOf (n : Nat) : Char := if isHigh n || isLow n then '\uFFFD' else Char.ofNat n

/-- Units and code points as characters: a high and a low surrogate are one
character. -/
def joinUnits : List Nat → List Char
  | [] => []
  | [n] => [charOf n]
  | a :: b :: rest =>
    if isHigh a && isLow b then
      Char.ofNat (0x10000 + (a - 0xd800) * 0x400 + (b - 0xdc00)) :: joinUnits rest
    else charOf a :: joinUnits (b :: rest)

/-- A text behind its opening quote. -/
def readText (cs : List Char) : Attempt (String × List Char) :=
  match readUnits cs with
  | some (ns, rest) => .ok (String.ofList (joinUnits ns), rest)
  | none => refuse

/-- A run of ASCII digits and what follows it. -/
def digitSpan (cs : List Char) : List Char × List Char := cs.span Char.isDigit

/-- An integer part without a superfluous zero in front. -/
def integerPart? (cs : List Char) : Option (List Char × List Char) :=
  match cs with
  | '0' :: rest => some (['0'], rest)
  | _ =>
    match digitSpan cs with
    | ([], _) => none
    | (ds, rest) => some (ds, rest)

/-- A fraction if a complete one stands there. -/
def fractionPart (cs : List Char) : List Char × List Char :=
  match cs with
  | '.' :: rest =>
    match digitSpan rest with
    | ([], _) => ([], cs)
    | (ds, tail) => ('.' :: ds, tail)
  | _ => ([], cs)

/-- An exponent if a complete one stands there. -/
def exponentPart (cs : List Char) : List Char × List Char :=
  match cs with
  | e :: rest =>
    if e = 'e' ∨ e = 'E' then
      let (sign, digits) := match rest with
        | '-' :: more => (['-'], more)
        | '+' :: more => (['+'], more)
        | more => ([], more)
      match digitSpan digits with
      | ([], _) => ([], cs)
      | (ds, tail) => (e :: sign ++ ds, tail)
    else ([], cs)
  | [] => ([], cs)

/-- A number: an integer unless it has a fraction or an exponent. -/
def readNumber (cs : List Char) : Attempt (Value × List Char) :=
  let (sign, cs) := match cs with
    | '-' :: rest => (['-'], rest)
    | cs => ([], cs)
  match integerPart? cs with
  | none => refuse
  | some (whole, rest) =>
    let (fraction, rest) := fractionPart rest
    let (exponent, rest) := exponentPart rest
    if fraction = [] ∧ exponent = [] then do
      let n ← orBadValue (readInt? (String.ofList (sign ++ whole)))
      .ok (.int n, rest)
    else do
      let x ← orBadValue (Binary.ofText? (String.ofList (sign ++ whole ++ fraction ++ exponent)))
      .ok (.float x, rest)

/-- An entry added to an object: a new key at the end, a present key in its place. -/
def put (key : String) (v : Value) : List (Value × Value) → List (Value × Value)
  | [] => [(.text key, v)]
  | (k, old) :: rest =>
    if k.isText key then (k, v) :: rest else (k, old) :: put key v rest

/-- A name that stands for a value. -/
def readName (cs : List Char) : Attempt (Value × List Char) :=
  match Text.after? "null".toList cs with
  | some rest => .ok (.null, rest)
  | none =>
    match Text.after? "true".toList cs with
    | some rest => .ok (.bool true, rest)
    | none =>
      match Text.after? "false".toList cs with
      | some rest => .ok (.bool false, rest)
      | none => readNumber cs

mutual
/-- A value at the front of a text, within `fuel` steps of nesting and repetition. -/
def readValue : Nat → List Char → Attempt (Value × List Char)
  | 0, _ => refuse
  | fuel + 1, cs =>
    match cs with
    | '"' :: rest => do
      let (s, rest) ← readText rest
      .ok (.text s, rest)
    | '[' :: rest =>
      match skipSpace rest with
      | ']' :: rest => .ok (.list [], rest)
      | rest => do
        let (items, rest) ← readItems fuel rest
        .ok (.list items, rest)
    | '\x7b' :: rest =>
      match skipSpace rest with
      | '\x7d' :: rest => .ok (.object [], rest)
      | rest => do
        let (entries, rest) ← readEntries fuel [] rest
        .ok (.object entries, rest)
    | cs => readName cs
/-- The items of a list up to its closing bracket. -/
def readItems : Nat → List Char → Attempt (List Value × List Char)
  | 0, _ => refuse
  | fuel + 1, cs => do
    let (v, rest) ← readValue fuel cs
    match skipSpace rest with
    | ']' :: rest => .ok ([v], rest)
    | ',' :: rest => do
      let (vs, rest) ← readItems fuel (skipSpace rest)
      .ok (v :: vs, rest)
    | _ => refuse
/-- The entries of an object up to its closing brace, added to those before. -/
def readEntries : Nat → List (Value × Value) → List Char →
    Attempt (List (Value × Value) × List Char)
  | 0, _, _ => refuse
  | fuel + 1, entries, cs =>
    match cs with
    | '"' :: rest => do
      let (key, rest) ← readText rest
      match skipSpace rest with
      | ':' :: rest => do
        let (v, rest) ← readValue fuel (skipSpace rest)
        let entries := put key v entries
        match skipSpace rest with
        | '\x7d' :: rest => .ok (entries, rest)
        | ',' :: rest => readEntries fuel entries (skipSpace rest)
        | _ => refuse
      | _ => refuse
    | _ => refuse
end

/-- The text behind a byte order mark, also one that was read byte by byte. -/
def skipMark (cs : List Char) : List Char :=
  match cs with
  | '\uFEFF' :: rest => rest
  | '\u00EF' :: '\u00BB' :: '\u00BF' :: rest => rest
  | cs => cs

/-- The value that a whole text stands for. -/
def readChars (cs : List Char) : Attempt Value := do
  let cs := skipSpace (skipMark cs)
  let (v, rest) ← readValue (2 * cs.length + 2) cs
  if skipSpace rest = [] then .ok v else refuse

/-- The value that bytes stand for. -/
def read (bs : Bytes) : Attempt Value := do
  let cs ← orBadValue (Utf8.decode? bs)
  readChars cs

end ExaWire.Json
