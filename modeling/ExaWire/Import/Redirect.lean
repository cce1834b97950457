/-
ExaWire/Import/Redirect.lean

Statements redirected to load from an endpoint.  The first file clause becomes a
synthetic one, all further ones go, and every `LOCAL CSV` becomes `CSV AT` with
the endpoint's address.

The address is a replacement text: a backslash in it begins an escape, and a
reference to the whole match stands for the words replaced.  An undefined escape
or group ends the redirection in a fault.
-/
import ExaWire.Import.Clause
import ExaWire.Text.Identifier
import ExaWire.Value.Coercion

namespace ExaWire.Import

open Text

/-! ### Replacement texts -/

/-- A part of a replacement text. -/
inductive Piece
  | char (c : Char)
  /-- the words that are replaced -/
  | whole
deriving DecidableEq, Repr

/-- The character that a letter behind a backslash stands for. -/
def escaped? (c : Char) : Option Char :=
  if c = 'a' then some '\x07'
  else if c = 'b' then some '\x08'
  else if c = 'f' then some '\x0c'
  else if c = 'n' then some '\n'
  else if c = 'r' then some '\r'
  else if c = 't' then some '\t'
  else if c = 'v' then some '\x0b'
  else if c = '\\' then some '\\'
  else none

/-- Whether a character is an octal digit. -/
def isOctal (c : Char) : Bool := '0' ≤ c && c ≤ '7'

/-- The value of octal digits. -/
def octal (ds : List Char) : Nat := ofDigits 8 (ds.map fun d => d.toNat - 48)

/-- A reference to a group by number: there is only the whole match. -/
def group (n : Int) : Attempt Piece := if n = 0 then .ok .whole else fault .badTemplate

/-- A reference to a group by name or number, from behind the `g`. -/
def namedGroup (cs : List Char) : Attempt (Piece × List Char) :=
  match cs with
  | '<' :: rest =>
    match cut? ['>'] rest with
    | none => fault .badTemplate
    | some (name, rest) =>
      if name.isEmpty then fault .badTemplate
      else if isName name then fault .outOfRange
      else match readInt? (String.ofList name) with
        | some n => (group n).map (·, rest)
        | none => fault .badTemplate
  | _ => fault .badTemplate

/-- A numeric escape: an octal number or the number of a group. -/
def numeric (d : Char) (cs : List Char) : Attempt (Piece × List Char) :=
  if d = '0' then
    let ds := (cs.take 2).takeWhile isOctal
    .ok (.char (Char.ofNat (octal ds % 256)), cs.drop ds.length)
  else match cs with
    | e :: f :: rest =>
      if isOctal d && isOctal e && isOctal f then
        let n := octal [d, e, f]
        if n < 256 then .ok (.char (Char.ofNat n), rest) else fault .badTemplate
      else fault .badTemplate
    | _ => fault .badTemplate

/-- What a backslash and the text behind it stand for. -/
def escape (cs : List Char) : Attempt (List Piece × List Char) :=
  match cs with
  | [] => fault .badTemplate
  | 'g' :: rest => (namedGroup rest).map fun (p, rest) => ([p], rest)
  | c :: rest =>
    if c.isDigit then (numeric c rest).map fun (p, rest) => ([p], rest)
    else match escaped? c with
      | some e => .ok ([.char e], rest)
      | none => if c.isAlpha then fault .badTemplate else .ok ([.char '\\', .char c], rest)

/-- The parts of a replacement text; `size` bounds its length. -/
def readTemplate : Nat → List Char → Attempt (List Piece)
  | 0, _ => .ok []
  | _ + 1, [] => .ok []
  | size + 1, '\\' :: cs => do
    let (pieces, rest) ← escape cs
    let more ← readTemplate size rest
    .ok (pieces ++ more)
  | size + 1, c :: cs => do
    let more ← readTemplate size cs
    .ok (.char c :: more)

/-- The parts of a replacement text. -/
def template (cs : List Char) : Attempt (List Piece) := readTemplate cs.length cs

/-- A replacement for some words. -/
def Piece.render (whole : List Char) : Piece → List Char
  | .char c => [c]
  | .whole => whole

/-- A text with every place where a recogniser succeeds replaced; `skip` characters are
still replaced by the replacement made last. -/
def substitute (read : List Char → Option (List Char)) (pieces : List Piece) :
    Nat → List Char → List Char
  | _, [] => []
  | skip + 1, _ :: cs => substitute read pieces skip cs
  | 0, c :: cs =>
    match read (c :: cs) with
    | some rest =>
      let size := cs.length + 1 - rest.length
      pieces.flatMap (Piece.render ((c :: cs).take size)) ++ substitute read pieces (size - 1) cs
    | none => c :: substitute read pieces 0 cs

/-! ### Statements -/

/-- The file clause that stands for the upload. -/
def syntheticFile : List Char := "FILE 'data.csv' ".toList

/-- The statement with every file clause replaced where its text first stands: the
first by the synthetic one, the others by nothing. -/
def replaceFiles (sql : List Char) : List Char :=
  match files sql with
  | [] => sql
  | first :: others =>
    others.foldl (fun sql f => replaceFirst f.text [] sql) (replaceFirst first.text syntheticFile sql)

/-- The words that name an endpoint as the source, as a replacement text. -/
def sourceAt (url : List Char) : List Char := "CSV AT '".toList ++ url ++ ['\'']

/-- A statement redirected to load from an endpoint; one that loads no local files is
left alone. -/
def redirect (sql url : List Char) : Attempt (List Char) :=
  if isImport sql then do
    let pieces ← template (sourceAt url)
    .ok (substitute localCsv? pieces 0 (replaceFiles sql))
  else .ok sql

/-- An import: the files that it names, in order, and how their rows end. -/
structure Job where
  sql : List Char
  paths : List String
  separator : Bytes
  url : String := ""
  redirected : String := ""
deriving Repr

/-- The import that a statement asks for; it has to name a file. -/
def Job.ofStatement (sql : String) : Attempt Job :=
  match files sql.toList with
  | [] => .error (.of .importQuery "could not parse import query")
  | found => .ok {
      sql := sql.toList
      paths := found.map fun f => String.ofList f.value
      separator := rowSeparator sql.toList }

/-- The import with its statement redirected to an endpoint. -/
def Job.bindTo (j : Job) (url : String) : Attempt Job := do
  let redirected ← redirect j.sql url.toList
  .ok { j with url, redirected := String.ofList redirected }

end ExaWire.Import
