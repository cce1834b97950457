/-
ExaWire/Import/Clause.lean

The clauses of a statement that loads local files: `FROM LOCAL CSV`, the files
with their paths, and the row separator.

Key words are read without regard to case, and a recogniser gives what it found
together with the text that follows.  `scan` collects every clause of a kind from
left to right; a clause that begins inside another is passed over.
-/
import ExaWire.Text.Blank
import ExaWire.Text.Cut
import ExaWire.Text.Utf8

namespace ExaWire.Import

open Text

/-- A letter regardless of case.  The long s, the Kelvin sign, the dotless and the
dotted i count as the letters they are written for. -/
def foldCase (c : Char) : Char :=
  if c = 'ſ' then 's'
  else if c = '\u212a' then 'k'
  else if c = 'ı' ∨ c = 'İ' then 'i'
  else c.toLower

/-- Whether a character is a letter of the alphabet, regardless of case. -/
def isLetter (c : Char) : Bool := (foldCase c).isAlpha

/-- What follows a key word. -/
def word? (w : List Char) (cs : List Char) : Option (List Char) :=
  match w, cs with
  | [], cs => some cs
  | _ :: _, [] => none
  | l :: w, c :: cs => if foldCase c = l then word? w cs else none

/-- What follows blanks, of which there has to be one at least. -/
def blanks? : List Char → Option (List Char)
  | [] => none
  | c :: cs => if isBlank c then some (cs.dropWhile isBlank) else none

/-- What follows a quotation mark of either kind. -/
def quote? : List Char → Option (List Char)
  | [] => none
  | c :: cs => if c = '"' ∨ c = '\'' then some cs else none

/-- A run of characters of a kind between two quotation marks, and what follows. -/
def quotedRun? (allowed : Char → Bool) (cs : List Char) : Option (List Char × List Char) := do
  let rest ← quote? cs
  let run := rest.takeWhile allowed
  if run.isEmpty then none
  else
    let rest ← quote? (rest.dropWhile allowed)
    some (run, rest)

/-- What follows `LOCAL CSV`. -/
def localCsv? (cs : List Char) : Option (List Char) :=
  word? ['l', 'o', 'c', 'a', 'l'] cs >>= blanks? >>= word? ['c', 's', 'v']

/-- What follows `FROM LOCAL CSV`. -/
def fromLocalCsv? (cs : List Char) : Option (List Char) :=
  word? ['f', 'r', 'o', 'm'] cs >>= blanks? >>= localCsv?

/-- Whether a recogniser succeeds somewhere in a text. -/
def occurs {α : Type} (read : List Char → Option α) : List Char → Bool
  | [] => (read []).isSome
  | c :: cs => (read (c :: cs)).isSome || occurs read cs

/-- Whether `IMPORT` begins a text, behind blanks, and `FROM LOCAL CSV` follows behind a
blank or a bracket and one more character at least. -/
def startsImport (cs : List Char) : Bool :=
  match word? ['i', 'm', 'p', 'o', 'r', 't'] (cs.dropWhile isBlank) with
  | some (c :: _ :: rest) => (isBlank c || c = '(') && occurs fromLocalCsv? rest
  | _ => false

/-- Whether some line of a text, the first one included, begins such that a property
holds of the text from there on. -/
def atSomeLine (p : List Char → Bool) : List Char → Bool
  | [] => false
  | c :: cs => (c = '\n' && p cs) || atSomeLine p cs

/-- Whether a statement loads local files: at the start of some line. -/
def isImport (sql : List Char) : Bool := startsImport sql || atSomeLine startsImport sql

/-- The characters of a file's path. -/
def isPathChar (c : Char) : Bool :=
  isLetter c || c.isDigit || [':', '<', '>', ' ', '\\', '/', '.', '_', '-', '~'].contains c

/-- What follows one space, if there is one. -/
def skipSpace : List Char → List Char
  | ' ' :: cs => cs
  | cs => cs

/-- The path of a file clause, and what follows the clause and one space. -/
def file? (cs : List Char) : Option (List Char × List Char) := do
  let rest ← word? ['f', 'i', 'l', 'e'] cs >>= blanks?
  let (path, rest) ← quotedRun? isPathChar rest
  some (path, skipSpace rest)

/-- The name in a row separator clause, and what follows. -/
def rowSeparator? (cs : List Char) : Option (List Char × List Char) := do
  let rest ← word? ['r', 'o', 'w'] cs >>= blanks? >>=
    word? ['s', 'e', 'p', 'a', 'r', 'a', 't', 'o', 'r']
  match rest.dropWhile isBlank with
  | '=' :: rest => quotedRun? isLetter (rest.dropWhile isBlank)
  | _ => none

/-- A clause found in a text: what it was written as, and what it says. -/
structure Found (α : Type) where
  text : List Char
  value : α

/-- The clauses of a text from left to right; `skip` characters still belong to the
clause found last. -/
def scan {α : Type} (read : List Char → Option (α × List Char)) : Nat → List Char → List (Found α)
  | _, [] => []
  | skip + 1, _ :: cs => scan read skip cs
  | 0, c :: cs =>
    match read (c :: cs) with
    | some (value, rest) =>
      let size := cs.length + 1 - rest.length
      ⟨(c :: cs).take size, value⟩ :: scan read (size - 1) cs
    | none => scan read 0 cs

/-- The file clauses of a statement. -/
def files (sql : List Char) : List (Found (List Char)) := scan file? 0 sql

/-- The separators by their names. -/
def separators : List (List Char × Bytes) :=
  [(['L', 'F'], [10]), (['C', 'R'], [13]), (['C', 'R', 'L', 'F'], [13, 10])]

/-- The row separator that a statement names; a line feed if it names none, or none
that is known. -/
def rowSeparator (sql : List Char) : Bytes :=
  match scan rowSeparator? 0 sql with
  | [] => [10]
  | found :: _ => (separators.lookup (found.value.map Char.toUpper)).getD [10]

end ExaWire.Import
