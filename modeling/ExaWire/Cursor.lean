/-
ExaWire/Cursor.lean

Cursors over result sets.  A cursor holds one page and asks for the next one when
it has come to the end of the rows it was given; pages come from the position of
the row that is wanted, so every row is asked for where it belongs.

The counters are the server's word and need not agree with the data.  A row that
is missing from its page is a failure, and a step that fails never moves on to
the next row.
-/
import ExaWire.Client.Held
import ExaWire.Parameter.Literal
import ExaWire.Session.Exchange

namespace ExaWire

/-- A cursor. -/
structure Cursor where
  /-- the session that it belongs to -/
  serial : Nat
  handle : Int
  columns : List Column
  /-- the rows of the whole result set -/
  total : Int
  fetchBytes : Int
  /-- the rows received so far -/
  fetched : Int
  page : List (List Value)
  /-- the next row's place in the page -/
  pagePointer : Nat := 0
  /-- the next row's place in the result set -/
  rowPointer : Nat := 0
  fetchCount : Nat := 0
  isClosed : Bool := false

namespace Cursor

open Held

variable {ω : Type}

/-- A cursor over the result set that a page begins. -/
def ofPage (s : Session) (page : ResultPage) : Cursor where
  serial := s.serial
  handle := page.handle
  columns := page.columns
  total := page.numRows
  fetchBytes := s.config.fetchBytes
  fetched := page.numRowsInMessage
  page := page.data

/-- The names of the columns. -/
def names (c : Cursor) : List String := c.columns.map (·.name)

/-- Whether all rows have been delivered. -/
def atEnd (c : Cursor) : Bool := c.total = 0 || c.total ≤ c.rowPointer

/-- Whether the next row is the first that has not been received. -/
def needsPage (c : Cursor) : Bool := c.fetched < c.total && c.fetched = c.rowPointer

/-- The failure of a result that lacks what it promises. -/
def malformed (text : String) : Failure := .of .malformedResult text

/-- The value of the next row in one column. -/
def value (c : Cursor) (column : Nat) : Attempt Value := do
  match c.page[column]?.bind (·[c.pagePointer]?) with
  | none =>
    .error (malformed ("row " ++ toString c.rowPointer ++ " column " ++ toString column ++
      " missing from result page"))
  | some v =>
    match c.columns[column]? with
    | none => fault .outOfRange
    | some column => Parameter.ofResult v column.dataType

/-- A row filled from a column on with the values of the next row; what cannot be filled is
left as it is. -/
def fill (c : Cursor) : Nat → List Value → List Value × Attempt Unit
  | _, [] => ([], .ok ())
  | column, old :: rest =>
    match c.value column with
    | .error f => (old :: rest, .error f)
    | .ok v =>
      let (rest, result) := c.fill (column + 1) rest
      (v :: rest, result)

/-- The cursor with a further page. -/
def turnTo (page : ResultPage) (c : Cursor) : Cursor :=
  { c with
    page := page.data
    pagePointer := 0
    fetched := c.fetched + page.numRows
    fetchCount := c.fetchCount + 1 }

/-- The cursor one row further on. -/
def pass (c : Cursor) : Cursor :=
  { c with pagePointer := c.pagePointer + 1, rowPointer := c.rowPointer + 1 }

/-- Fetches the page that begins with the next row. -/
def fetch (env : Environment ω) : Held Cursor ω Unit := do
  let c ← object
  ofAttempt ((← act Action.session).live c.serial)
  let request := Command.fetch (.int c.handle) (.int c.rowPointer) (.int c.fetchBytes)
  let page ← act (Session.send env request ResultPage.ofValue)
  if page.numRows = 0 then
    throw (malformed ("fetch at row " ++ toString c.rowPointer ++ " of result set " ++
      toString c.handle ++ " returned no rows"))
  act (Action.note .trace ("Fetched " ++ toString page.numRows ++ " rows from result set " ++
    toString c.handle ++ " with fetch size " ++ toString c.fetchBytes ++ " bytes at start pos " ++
    toString c.rowPointer))
  change (turnTo page)

/-- Fills a row with the next one, unless the end is reached.  The row is given as it was
left, even if it could not be filled. -/
def nextInto (env : Environment ω) (row : List Value) : Held Cursor ω (List Value × Attempt Bool) := do
  let c ← object
  if c.atEnd then return (row, .ok false)
  let fetched ← attempt (if c.needsPage then fetch env else pure ())
  match fetched with
  | .error f => return (row, .error f)
  | .ok () =>
    let (row, result) := (← object).fill 0 row
    match result with
    | .error f => return (row, .error f)
    | .ok () =>
      change pass
      return (row, .ok true)

/-- The next row, if there is one. -/
def next (env : Environment ω) : Held Cursor ω (Option (List Value)) := do
  let blank := (← object).columns.map fun _ => Value.null
  let (row, result) ← nextInto env blank
  return if ← ofAttempt result then some row else none

/-- At most so many of the rows that are left. -/
def upTo (env : Environment ω) : Nat → Held Cursor ω (List (List Value))
  | 0 => return []
  | n + 1 => do
    match ← next env with
    | none => return []
    | some row => return row :: (← upTo env n)

/-- How many rows are left. -/
def remaining (c : Cursor) : Nat := (c.total - c.rowPointer).toNat

/-- All rows that are left. -/
def rest (env : Environment ω) : Held Cursor ω (List (List Value)) := do
  upTo env (← object).remaining

/-- Releases the result set, if the server holds one. -/
def close (env : Environment ω) : Held Cursor ω Unit := do
  let c ← object
  if c.isClosed then return
  change fun c => { c with isClosed := true }
  if c.handle = 0 then return
  ofAttempt ((← act Action.session).live c.serial)
  act (Session.send env (Command.closeResultSet [.int c.handle]) Session.noData)

end Cursor

end ExaWire
