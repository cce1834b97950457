/-
ExaWire/Script/Named.lean

Scopes that a caller knows by names of its own.  A name that is given again stands
for the new scope; the old one goes on below whatever was made from it.
-/
import ExaWire.Scope

namespace ExaWire.Script

/-- A call on a named scope. -/
inductive ScopeCall
  | make (deadline : Deadline) (parent : Option String)
  | child (name : String)
  | cancel (cause : Option Cause)
  | isCancelled
  | cause
  | deadline

/-- What a call on a scope gives. -/
inductive ScopeGiven
  | nothing
  | flag (b : Bool)
  | cause (c : Cause)
  | deadline (d : Deadline)

/-- All scopes, and those that have names. -/
structure Named where
  names : List (String × ScopeId) := []
  scopes : Scopes := []

namespace Named

/-- The scopes with a new one under a name. -/
def make (name : String) (deadline : Deadline) (parent : Option ScopeId) (n : Named) : Named :=
  let (id, scopes) := n.scopes.create deadline parent
  { names := (name, id) :: n.names, scopes }

/-- Makes a call on the scope of a name. -/
def take (name : String) (n : Named) (call : ScopeCall) : ScopeGiven × Named :=
  match call, n.names.lookup name with
  | .make deadline parent, _ => (.nothing, n.make name deadline (parent.bind fun p => n.names.lookup p))
  | _, none => (.nothing, n)
  | .child other, some id => (.nothing, n.make other .none (some id))
  | .cancel cause, some id => (.nothing, { n with scopes := n.scopes.cancel id cause })
  | .isCancelled, some id =>
    let (cause, scopes) := n.scopes.poll id
    (.flag cause.isSome, { n with scopes })
  | .cause, some id => (((n.scopes.cause? id).map .cause).getD .nothing, n)
  | .deadline, some id => (.deadline (((n.scopes.get? id).map (·.deadline)).getD .none), n)

/-- Makes calls in order. -/
def play (n : Named) : List (String × ScopeCall) → List ScopeGiven
  | [] => []
  | (name, call) :: calls =>
    let (given, n) := n.take name call
    given :: n.play calls

end Named

end ExaWire.Script
