/-
ExaWire/Import/Upload.lean

Local files sent as the answer to the server's request for them: a fixed head and
a body in chunks, one for every line.  Before each line the scope is polled, and
the body is ended only when all files have been sent; so an upload that breaks
off leaves a body that cannot be taken for a complete one.
-/
import ExaWire.Import.Chunked
import ExaWire.Import.Lines
import ExaWire.Network.Socket
import ExaWire.Value.Coercion

namespace ExaWire.Import

open Network

/-- A local file as it is read: its blocks, and a failure if reading it fails. -/
abbrev LocalFile := List Delivery

/-- The lines of the head. -/
def headLines : List String :=
  ["HTTP/1.1 200 OK",
    "Content-Type: application/octet-stream",
    "Content-Disposition: attachment; filename=data.csv",
    "Transfer-Encoding: chunked",
    "Connection: close",
    ""]

/-- The head, up to the empty line that ends it. -/
def head : Bytes := headLines.flatMap fun l => Utf8.encode l ++ Chunked.lineEnd

/-- Why an upload broke off. -/
inductive Break
  /-- reading or writing failed -/
  | failed (text : String)
  | cancelled (cause : Cause)
  /-- a write does not return before the socket is shut down -/
  | stuck

/-- An upload under way: the socket, all scopes, and the payload so far. -/
structure Upload where
  socket : Socket
  scopes : Scopes
  payload : Nat := 0

namespace Upload

/-- A step of an upload, which may break off. -/
abbrev Step (α : Type) := ExceptT Break (StateM Upload) α

/-- Writes to the stream; scopes may be cancelled meanwhile. -/
def write (bs : Bytes) : Step Unit := do
  let u ← get
  let (outcome, socket) := u.socket.write bs
  let scopes := u.scopes.apply socket.dueAlarms
  set { u with socket, scopes }
  match outcome with
  | .done => pure ()
  | .failed text => throw (.failed text)
  | .blocked => throw .stuck

/-- Ends with the cause of a scope that is cancelled. -/
def check (scope : Option ScopeId) : Step Unit := do
  match scope with
  | none => pure ()
  | some id =>
    let u ← get
    let (cause, scopes) := u.scopes.poll id
    set { u with scopes }
    match cause with
    | none => pure ()
    | some cause => throw (.cancelled cause)

/-- Sends one line, unless the scope is cancelled. -/
def line (scope : Option ScopeId) (bs : Bytes) : Step Unit := do
  check scope
  (Chunked.chunk bs).forM write
  modify fun u => { u with payload := u.payload + bs.length }

/-- Sends the lines of a file as its blocks are read. -/
def file (scope : Option ScopeId) (delimiter : Bytes) : Lines → LocalFile → Step Unit
  | lines, [] => lines.finish.forM (line scope)
  | _, .failure text :: _ => throw (.failed text)
  | lines, .bytes block :: rest => do
    let (complete, lines) := (lines.read delimiter block).take
    complete.forM (line scope)
    file scope delimiter lines rest

/-- Ends the body. -/
def finish : Step Unit := do
  write Chunked.terminator
  match (← get).socket.flushFailure with
  | some text => throw (.failed text)
  | none => pure ()

/-- The byte that ends a line: the last one of the row separator. -/
def delimiterOf (separator : Bytes) : Bytes := separator.drop (separator.length - 1)

/-- Sends files, one after the other. -/
def run (scope : Option ScopeId) (separator : Bytes) (files : List LocalFile) : Step Unit := do
  write head
  files.forM (file scope (delimiterOf separator) {})
  finish

end Upload

end ExaWire.Import
