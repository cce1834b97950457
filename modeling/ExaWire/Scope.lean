/-
ExaWire/Scope.lean

Cancellation scopes.  Whoever waits for something polls a scope, and the scope
tells whether the wait should end and why.  A scope is cancelled when it was
told so, when its deadline has passed, or when its parent is cancelled; the
first cause that a scope learns of stays its cause.

Scopes form a forest that grows but never shrinks.  They are kept newest first,
and a scope is known by the number of scopes that were made before it, so a
parent always stands further down the list and polling walks down it once.
-/
import ExaWire.Failure

namespace ExaWire

/-- The number of scopes made before a scope. -/
abbrev ScopeId := Nat

/-- How a scope's deadline stands. -/
inductive Deadline
  | none
  | ahead
  | passed
deriving DecidableEq, Repr

/-- A scope: its deadline, its parent, and its cause once it has learned of one. -/
structure Scope where
  deadline : Deadline := .none
  parent : Option ScopeId := none
  cause : Option Cause := none

/-- All scopes, newest first. -/
abbrev Scopes := List Scope

/-- The cause of a scope whose deadline has passed. -/
def Cause.deadline : Cause := .note (.text "deadline exceeded")

/-- The cause of a scope that was cancelled without one. -/
def Cause.byCaller : Cause := .note (.text Failure.byCaller)

/-- A scope that learns of a cause keeps the one it has. -/
def Scope.learn (c : Cause) (s : Scope) : Scope := { s with cause := s.cause <|> some c }

namespace Scopes

/-- The scopes with a new one, and the number by which it is known. -/
def create (scopes : Scopes) (deadline : Deadline) (parent : Option ScopeId) : ScopeId × Scopes :=
  (scopes.length, { deadline, parent } :: scopes)

/-- The scope of a number. -/
def get? (id : ScopeId) : Scopes → Option Scope
  | [] => none
  | s :: older => if id = older.length then some s else get? id older

/-- The scopes with one changed. -/
def update (f : Scope → Scope) (id : ScopeId) : Scopes → Scopes
  | [] => []
  | s :: older => if id = older.length then f s :: older else s :: update f id older

/-- The scopes after one was cancelled; without a cause, the caller's wish is the cause. -/
def cancel (id : ScopeId) (cause : Option Cause) (scopes : Scopes) : Scopes :=
  scopes.update (Scope.learn (cause.getD .byCaller)) id

/-- The cause of a scope, as far as it has learned of one. -/
def cause? (id : ScopeId) (scopes : Scopes) : Option Cause :=
  (scopes.get? id).bind (·.cause)

/-- Asks whether a scope is cancelled, and why.  A scope that knows its cause gives it;
otherwise it looks at its deadline and then asks its parent, and what it learns stays
its cause. -/
def poll (id : ScopeId) : Scopes → Option Cause × Scopes
  | [] => (none, [])
  | s :: older =>
    if id = older.length then
      match s.cause, s.deadline, s.parent with
      | some c, _, _ => (some c, s :: older)
      | none, .passed, _ => (some .deadline, { s with cause := some .deadline } :: older)
      | none, _, none => (none, s :: older)
      | none, _, some parent =>
        let (cause, older) := poll parent older
        (cause, { s with cause } :: older)
    else
      let (cause, older) := poll id older
      (cause, s :: older)

end Scopes

end ExaWire
