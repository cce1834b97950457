/-
ExaWire/Transaction.lean

Transactions on sessions without autocommit.  A transaction is good for one
attempt to commit or to roll back, and counts as finished from then on, whatever
comes of the attempt; only a closed session leaves it as it is.
-/
import ExaWire.Statement

namespace ExaWire

/-- A transaction: the session that it belongs to, unless it is finished. -/
structure Transaction where
  serial : Option Nat
deriving DecidableEq, Repr

namespace Transaction

open Held

variable {ω : Type}

/-- Whether a transaction is finished. -/
def isFinished (t : Transaction) : Bool := t.serial.isNone

/-- A transaction on a session, whatever its settings. -/
def on (s : Session) : Transaction := ⟨some s.serial⟩

/-- Begins a transaction on a session that does not commit by itself. -/
def start (s : Session) : Attempt Transaction := do
  s.live s.serial
  if s.config.autocommit then
    .error (.of .autocommit "begin not working when autocommit is enabled")
  else .ok (on s)

/-- Ends the transaction with a statement. -/
def finish (env : Environment ω) (sql : String) : Held Transaction ω Unit := do
  match (← object).serial with
  | none => throw (.of .finished "invalid connection: transaction already finished")
  | some serial =>
    ofAttempt ((← act Action.session).live serial)
    change fun _ => ⟨none⟩
    let _ ← act (Statement.simple env sql none)

/-- Makes the changes of the transaction last. -/
def commit (env : Environment ω) : Held Transaction ω Unit := finish env "COMMIT"

/-- Undoes the changes of the transaction. -/
def rollback (env : Environment ω) : Held Transaction ω Unit := finish env "ROLLBACK"

/-- The end of a block that the transaction guards: a transaction that is not finished is
committed, or rolled back if the block failed. -/
def leave (env : Environment ω) (failed : Bool) : Held Transaction ω Unit := do
  if (← object).isFinished then return
  if failed then rollback env else commit env

end Transaction

end ExaWire
