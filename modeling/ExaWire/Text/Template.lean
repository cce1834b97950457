/-
ExaWire/Text/Template.lean

Message templates: `%` directives filled in with values, from left to right or,
if the only value is an object, by name.  A directive gives a conversion and may
give flags, a least width and a precision.  A template that does not fit its
values (too few, too many, or of the wrong kind) has no text.
-/
import ExaWire.Number.Shortest
import ExaWire.Value.Coercion

namespace ExaWire.Template

/-- The layout that a directive asks for. -/
structure Layout where
  left : Bool := false
  plus : Bool := false
  blank : Bool := false
  zero : Bool := false
  alternate : Bool := false
  width : Nat := 0
  precision : Option Nat := none

/-- The layout with one more flag, if the character is one. -/
def Layout.flag? (l : Layout) (c : Char) : Option Layout :=
  if c = '-' then some { l with left := true }
  else if c = '+' then some { l with plus := true }
  else if c = ' ' then some { l with blank := true }
  else if c = '0' then some { l with zero := true }
  else if c = '#' then some { l with alternate := true }
  else none

/-- The flags at the front. -/
def readFlags (l : Layout) : List Char → Layout × List Char
  | [] => (l, [])
  | c :: cs =>
    match l.flag? c with
    | some l => readFlags l cs
    | none => (l, c :: cs)

/-- A text brought to the least width. -/
def Layout.pad (l : Layout) (cs : List Char) : List Char :=
  let fill := List.replicate (l.width - cs.length) ' '
  if l.left then cs ++ fill else fill ++ cs

/-- A number brought to the least width: zeros go behind the sign and the base mark. -/
def Layout.padNumber (l : Layout) (negative : Bool) (mark digits : List Char) : List Char :=
  let sign :=
    if negative then ['-'] else if l.plus then ['+'] else if l.blank then [' '] else []
  let head := sign ++ mark
  if l.zero && !l.left then
    head ++ List.replicate (l.width - head.length - digits.length) '0' ++ digits
  else l.pad (head ++ digits)

/-- A text in ASCII: other characters are escaped. -/
def toAscii (cs : List Char) : List Char :=
  cs.flatMap fun c =>
    if c.toNat < 0x80 then [c]
    else if c.toNat < 0x100 then '\\' :: 'x' :: Text.hexText 2 c.toNat
    else if c.toNat < 0x10000 then '\\' :: 'u' :: Text.hexText 4 c.toNat
    else '\\' :: 'U' :: Text.hexText 8 c.toNat

/-- A text, cut to the precision if there is one. -/
def Layout.text (l : Layout) (cs : List Char) : List Char :=
  l.pad (match l.precision with
    | some n => cs.take n
    | none => cs)

/-- An integer in a base; the precision is a least number of digits. -/
def Layout.integer (l : Layout) (base : Nat) (mark : List Char) (upper : Bool) (n : Int) :
    List Char :=
  let ds := Nat.toDigits base n.natAbs
  let ds := List.replicate (l.precision.getD 0 - ds.length) '0' ++ ds
  let ds := if upper then ds.map Char.toUpper else ds
  l.padNumber (n < 0) (if l.alternate then mark else []) ds

/-- A magnitude with a fixed number of places. -/
def fixedDigits (m : Nat) (e : Int) (places : Nat) (alternate : Bool) : List Char :=
  let ds := Nat.toDigits 10 (Binary.fixedUnits m e places)
  let ds := List.replicate (places + 1 - ds.length) '0' ++ ds
  let whole := ds.length - places
  ds.take whole ++ (if places = 0 && !alternate then [] else '.' :: ds.drop whole)

/-- So many significant digits of a magnitude and the power of ten of the first. -/
def significant (m : Nat) (e : Int) (count : Nat) : List Char × Int :=
  if m = 0 then (List.replicate count '0', 0)
  else
    let lead := Shortest.leading m e
    let (num, den) := Binary.ratio m e
    let (up, down) := scaled 10 (lead - count + 1)
    let ds := Nat.toDigits 10 (roundDiv (num * down) (den * up))
    if count < ds.length then (ds.take count, lead + 1) else (ds, lead)

/-- Digits behind the first after a point, and an exponent. -/
def exponentForm (ds : List Char) (lead : Int) (alternate : Bool) : List Char :=
  let tail := ds.drop 1
  ds.take 1 ++ (if tail.isEmpty && !alternate then [] else '.' :: tail) ++ 'e' :: exponentText lead

/-- Digits without trailing zeros. -/
def dropZeros (ds : List Char) : List Char := (ds.reverse.dropWhile (· = '0')).reverse

/-- The shorter of the positional and the exponent form. -/
def generalForm (m : Nat) (e : Int) (count : Nat) (alternate : Bool) : List Char :=
  let count := max count 1
  let (ds, lead) := significant m e count
  if lead < -4 ∨ (count : Int) ≤ lead then
    exponentForm (if alternate then ds else ds.take 1 ++ dropZeros (ds.drop 1)) lead alternate
  else if lead < 0 then
    let ds := List.replicate (-lead - 1).toNat '0' ++ ds
    let tail := if alternate then ds else dropZeros ds
    '0' :: (if tail.isEmpty then (if alternate then ['.'] else []) else '.' :: tail)
  else
    let tail := ds.drop (lead.toNat + 1)
    let tail := if alternate then tail else dropZeros tail
    ds.take (lead.toNat + 1) ++ (if tail.isEmpty && !alternate then [] else '.' :: tail)

/-- A binary number in one of the forms `e`, `f` and `g`. -/
def Layout.fraction (l : Layout) (form : Char) (x : Binary) : List Char :=
  let places := l.precision.getD 6
  let (negative, body) := match x with
    | .nan => (false, "nan".toList)
    | .infinite negative => (negative, "inf".toList)
    | .finite negative m e =>
      let lower := form.toLower
      (negative,
        if lower = 'f' then fixedDigits m e places l.alternate
        else if lower = 'e' then
          let (ds, lead) := significant m e (places + 1)
          exponentForm ds lead l.alternate
        else generalForm m e places l.alternate)
  l.padNumber negative [] (if form.isUpper then body.map Char.toUpper else body)

/-- The integer that a value gives to a decimal directive; texts give none, and one that
has too many digits has no text. -/
def numberOf : Value → Attempt Int
  | .text _ | .bytes _ => fault .wrongKind
  | v => do
    let n ← v.toInt
    if isWritable n then .ok n else fault .badValue

/-- The integer that a value is. -/
def wholeOf : Value → Attempt Int
  | .int n => .ok n
  | .bool b => .ok (if b then 1 else 0)
  | _ => fault .wrongKind

/-- The binary number nearest to a value. -/
def binaryOf : Value → Attempt Binary
  | .bool b => .ok (Binary.ofInt (if b then 1 else 0))
  | .int n =>
    let x := Binary.ofInt n
    if x.isFinite then .ok x else fault .tooGreat
  | .float x => .ok x
  | .decimal (.finite negative c e) => .ok (Binary.ofDecimal negative c e)
  | .decimal (.infinite negative) => .ok (.infinite negative)
  | .decimal (.nan _ signalling _) => if signalling then fault .badValue else .ok .nan
  | _ => fault .wrongKind

/-- A value converted by a directive. -/
def convert (l : Layout) (form : Char) (v : Value) : Attempt (List Char) :=
  if form = 's' then .ok (l.text v.plain.toList)
  else if form = 'r' then .ok (l.text v.written)
  else if form = 'a' then .ok (l.text (toAscii v.written))
  else if form = 'd' ∨ form = 'i' ∨ form = 'u' then (numberOf v).map (l.integer 10 [] false)
  else if form = 'x' then (wholeOf v).map (l.integer 16 ['0', 'x'] false)
  else if form = 'X' then (wholeOf v).map (l.integer 16 ['0', 'X'] true)
  else if form = 'o' then (wholeOf v).map (l.integer 8 ['0', 'o'] false)
  else if "eEfFgG".toList.contains form then (binaryOf v).map (l.fraction form)
  else if form = 'c' then
    match v with
    | .text s => if s.length = 1 then .ok (l.pad s.toList) else fault .wrongKind
    | v => do
      let n ← wholeOf v
      if 0 ≤ n ∧ n < 0x110000 then .ok (l.pad [Char.ofNat n.toNat]) else fault .tooGreat
  else fault .badValue

/-- The values that fill a template. -/
inductive Filling
  | inOrder (vs : List Value)
  | byName (entries : List (Value × Value)) (used : Bool)

/-- The next value of a filling. -/
def Filling.next : Filling → Attempt (Value × Filling)
  | .inOrder (v :: vs) => .ok (v, .inOrder vs)
  | .inOrder [] => fault .wrongKind
  | .byName entries false => .ok (.object entries, .byName entries true)
  | .byName _ true => fault .wrongKind

/-- The greatest width and the greatest precision. -/
def countCap : Nat := 2147483647

/-- A width or precision: digits, or a star for the next value. -/
def readCount (f : Filling) (cs : List Char) : Attempt (Int × Filling × List Char) := do
  let (n, f, rest) ← match cs with
    | '*' :: rest => do
      let (v, f) ← f.next
      .ok (← wholeOf v, f, rest)
    | cs =>
      let (ds, rest) := cs.span Char.isDigit
      (.ok (ofDigits 10 (ds.map (·.toNat - 48)), f, rest) : Attempt (Int × _))
  if countCap < n.natAbs then fault .badValue else .ok (n, f, rest)

/-- A name in parentheses, which may be nested. -/
def readName : Nat → List Char → Option (List Char × List Char)
  | _, [] => none
  | depth, c :: cs =>
    if c = ')' ∧ depth = 0 then some ([], cs)
    else
      let depth := if c = '(' then depth + 1 else if c = ')' then depth - 1 else depth
      (readName depth cs).map fun (name, rest) => (c :: name, rest)

/-- The text of a template; `fuel` bounds the number of directives. -/
def fill : Nat → Filling → List Char → Attempt (List Char)
  | 0, _, _ => fault .badValue
  | fuel + 1, f, cs =>
    match cs.span (· ≠ '%') with
    | (before, []) =>
      match f with
      | .inOrder (_ :: _) => fault .wrongKind
      | _ => .ok before
    | (before, _ :: '%' :: cs) => do
      let rest ← fill fuel f cs
      .ok (before ++ '%' :: rest)
    | (before, _ :: cs) => do
      let (named, f, cs) ← match cs with
        | '(' :: rest =>
          match f, readName 0 rest with
          | .byName entries _, some (name, rest) =>
            match Value.lookup? (String.ofList name) entries with
            | some v => .ok (some v, Filling.byName entries true, rest)
            | none => fault .unknownName
          | _, _ => fault .wrongKind
        | cs => (.ok (none, f, cs) : Attempt _)
      let (l, cs) := readFlags {} cs
      let (width, f, cs) ← readCount f cs
      let l := { l with left := l.left || width < 0, width := width.natAbs }
      let (precision, f, cs) ← match cs with
        | '.' :: rest => do
          let (n, f, rest) ← readCount f rest
          .ok (some n.toNat, f, rest)
        | cs => (.ok (none, f, cs) : Attempt _)
      let l := { l with precision }
      let cs := match cs with
        | c :: rest => if c = 'h' ∨ c = 'l' ∨ c = 'L' then rest else cs
        | [] => []
      match cs with
      | [] => fault .badValue
      | form :: cs => do
        let (v, f) ← match named with
          | some v => (.ok (v, f) : Attempt _)
          | none => f.next
        let part ← convert l form v
        let rest ← fill fuel f cs
        .ok (before ++ part ++ rest)

/-- The text of a template with its values; without values it is the template. -/
def text (template : String) (values : List Value) : Attempt String :=
  match values with
  | [] => .ok template
  | _ =>
    let filling := match values with
      | [.object entries] => if entries.isEmpty then Filling.inOrder values else .byName entries false
      | _ => .inOrder values
    (fill (template.length + 1) filling template.toList).map String.ofList

end ExaWire.Template
