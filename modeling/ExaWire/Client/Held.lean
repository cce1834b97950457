/-
ExaWire/Client/Held.lean

Actions on an object that stands beside a client: a cursor, a statement, a
transaction.  The object keeps what the action made of it even if the action
fails.
-/
import ExaWire.Client.Basic

namespace ExaWire

/-- An action on an object of type `o` beside a client. -/
abbrev Held (o ω α : Type) := ExceptT Failure (StateM (o × Client ω)) α

namespace Held

variable {o ω α : Type}

/-- An action of the client alone. -/
def act (a : Action ω α) : Held o ω α := fun (x, c) =>
  let (result, c) := a c
  (result, (x, c))

/-- The object. -/
def object : Held o ω o := do return (← get).1

/-- Changes the object. -/
def change (f : o → o) : Held o ω Unit := modify fun (x, c) => (f x, c)

/-- The result of an attempt. -/
def ofAttempt (a : Attempt α) : Held o ω α := act (Action.ofAttempt a)

/-- Runs an action to its end, however it ends. -/
def attempt (a : Held o ω α) : Held o ω (Attempt α) := fun s =>
  let (result, s) := a s
  (.ok result, s)

/-- Runs a body on the object and then, however the body ended, the end of the block that
it stands in; a failure of the end hides that of the body. -/
def guarded (body : Held o ω α) (leave : Bool → Held o ω Unit) : Held o ω α := do
  let result ← attempt body
  leave (match result with | .ok _ => false | .error _ => true)
  ofAttempt result

/-- Runs an action on an object at hand; the object it leaves is given together with the
result. -/
def on (x : o) (a : Held o ω α) : Action ω (Attempt α × o) := fun c =>
  let (result, x, c) := a (x, c)
  (.ok (result, x), c)

end Held

end ExaWire
