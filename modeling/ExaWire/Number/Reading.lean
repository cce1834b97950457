/-
ExaWire/Number/Reading.lean

Numbers read from text.  Digits of any script count, blanks around a number are
ignored, and a single underscore may stand between two digits.

* `readInt?` reads an integer in base ten; a text of more than 4300 digits is
  refused rather than converted.
* `readHex?` reads base sixteen, with or without the mark `0x`.
* `Binary.ofText?` reads a decimal fraction, `inf`, `infinity` or `nan`.
* `Decimal.ofText?` reads a decimal number and keeps its trailing zeros.
-/
import ExaWire.Number.Binary
import ExaWire.Number.Decimal
import ExaWire.Text.Blank

namespace ExaWire

open Text

/-- The greatest number of digits of an integer text in base ten. -/
def digitCap : Nat := 4300

/-- Whether an integer can be written in base ten: it has no more digits than can be
read back. -/
def isWritable (n : Int) : Bool := n.natAbs < Nat.pow 10 digitCap

/-- The value of a digit list, most significant first. -/
def ofDigits (base : Nat) (ds : List Nat) : Nat :=
  ds.foldl (fun n d => n * base + d) 0

/-- A leading sign and the rest. -/
def takeSign : List Char → Bool × List Char
  | '-' :: cs => (true, cs)
  | '+' :: cs => (false, cs)
  | cs => (false, cs)

/-- The longest run of digits at the front, in which a single underscore may stand
between two of them, and what follows it; `inside` tells that a digit came before. -/
def digitRun (value? : Char → Option Nat) (inside : Bool) :
    List Char → List Nat × List Char
  | [] => ([], [])
  | c :: cs =>
    match value? c with
    | some d =>
      let (ds, tail) := digitRun value? true cs
      (d :: ds, tail)
    | none =>
      if inside && c = '_' && (cs.head?.bind value?).isSome then digitRun value? false cs
      else ([], c :: cs)

/-- The value of a hexadecimal digit. -/
def hexValue? (c : Char) : Option Nat :=
  match digitValue? c with
  | some d => some d
  | none =>
    let n := c.toNat
    if 97 ≤ n ∧ n ≤ 102 then some (n - 87)
    else if 65 ≤ n ∧ n ≤ 70 then some (n - 55)
    else none

/-- A natural from its digits, if there are not too many of them. -/
def naturalOf? (ds : List Nat) : Option Nat :=
  if digitCap < ds.length then none else some (ofDigits 10 ds)

/-- An integer in base ten. -/
def readInt? (s : String) : Option Int :=
  let (negative, cs) := takeSign (trim isMargin s.toList)
  match digitRun digitValue? false cs with
  | ([], _) => none
  | (ds, []) => (naturalOf? ds).map fun n => if negative then -(n : Int) else n
  | (_, _ :: _) => none

/-- What follows the mark of base sixteen, a zero and an `x`, and an underscore behind it. -/
def dropHexMark : List Char → List Char
  | zero :: x :: rest =>
    if digitValue? zero = some 0 ∧ (x = 'x' ∨ x = 'X') then
      if rest.head? = some '_' then rest.drop 1 else rest
    else zero :: x :: rest
  | cs => cs

/-- An integer in base sixteen. -/
def readHex? (s : String) : Option Int :=
  let (negative, cs) := takeSign (trim isMargin s.toList)
  let cs := dropHexMark cs
  match digitRun hexValue? false cs with
  | ([], _) => none
  | (ds, []) =>
    let n : Nat := ofDigits 16 ds
    some (if negative then -(n : Int) else n)
  | (_, _ :: _) => none

/-- Lower case of the ASCII letters. -/
def lowerAscii (cs : List Char) : List Char := cs.map Char.toLower

/-- An exponent part: a mark, a sign and digits. -/
def readExponent? : List Char → Option Int
  | [] => some 0
  | c :: cs =>
    if c = 'e' ∨ c = 'E' then
      let (negative, cs) := takeSign cs
      match digitRun digitValue? false cs with
      | ([], _) => none
      | (ds, []) =>
        let n : Nat := ofDigits 10 ds
        some (if negative then -(n : Int) else n)
      | (_, _ :: _) => none
    else none

/-- Digits with an optional point and an exponent: the coefficient and the power of
ten. -/
def readScientific? (cs : List Char) : Option (Nat × Int) :=
  let (whole, rest) := digitRun digitValue? false cs
  let (fraction, rest) := match rest with
    | '.' :: rest => digitRun digitValue? false rest
    | _ => ([], rest)
  if whole = [] ∧ fraction = [] then none
  else (readExponent? rest).map fun e =>
    (ofDigits 10 (whole ++ fraction), e - (fraction.length : Int))

/-- A binary number from its decimal text. -/
def Binary.ofText? (s : String) : Option Binary :=
  let (negative, cs) := takeSign (trim isMargin s.toList)
  let name := String.ofList (lowerAscii cs)
  if name = "inf" ∨ name = "infinity" then some (.infinite negative)
  else if name = "nan" then some .nan
  else (readScientific? cs).map fun (n, e) => Binary.ofDecimal negative n e

/-- The payload behind the name of a value that is not a number. -/
def readPayload? (cs : List Char) : Option Nat :=
  (cs.mapM digitValue?).map (ofDigits 10)

/-- A decimal number from its text. -/
def Decimal.ofText? (s : String) : Option Decimal :=
  let (negative, cs) := takeSign ((trim isBlank s.toList).filter (· ≠ '_'))
  let name := String.ofList (lowerAscii cs)
  if name = "inf" ∨ name = "infinity" then some (.infinite negative)
  else match lowerAscii (cs.take 4) with
    | 's' :: 'n' :: 'a' :: ['n'] => (readPayload? (cs.drop 4)).map (.nan negative true)
    | 'n' :: 'a' :: 'n' :: _ => (readPayload? (cs.drop 3)).map (.nan negative false)
    | _ => (readScientific? cs).map fun (n, e) => .finite negative n e

end ExaWire
