/-
ExaWire/Import/Race.lean

The two tasks of an import: the statement that loads, and the upload that feeds
it.  They run side by side under one scope, and a supervisor waits for both.  The
first failure that it sees makes it give up: it cancels the scope, so that the
statement ends, and shuts the connection down, so that the upload ends.
-/
import ExaWire.Import.Endpoint

namespace ExaWire.Import

/-- The failure that is reported among several: the first that is no mere
cancellation, or else the first. -/
def firstCause (failures : List Failure) : Option Failure :=
  failures.find? (fun f => !f.isCancellation) <|> failures.head?

/-- The failures of two tasks that have ended, the statement's first. -/
def failuresOf {α β : Type} (statement : Option (Attempt α)) (upload : Option (Attempt β)) :
    List Failure :=
  let failure {γ : Type} : Option (Attempt γ) → List Failure
    | some (.error f) => [f]
    | _ => []
  failure statement ++ failure upload

/-- An upload that goes on beside a statement: what it needs, how it ended if it has,
and the failure for which the supervisor gave up, if it has. -/
structure Errand where
  scope : ScopeId
  separator : Bytes
  files : List LocalFile
  result : Option (Attempt Nat) := none
  verdict : Option Failure := none

/-- An errand, its endpoint and all scopes, and what can be seen of the steps taken. -/
structure Progress where
  errand : Errand
  endpoint : Endpoint
  scopes : Scopes
  events : List Network.Event := []
  notes : List Note := []

/-- Gives up for a failure: cancels the scope and shuts the connection down. -/
def Progress.giveUp (f : Failure) (p : Progress) : Progress :=
  let (endpoint, events, notes) := p.endpoint.abort
  { errand := { p.errand with verdict := some f }
    endpoint
    scopes := p.scopes.cancel p.errand.scope (some (.failure f))
    events := p.events ++ events
    notes := p.notes ++
      ⟨.warn, "Import failed, cancelling remaining task: " ++ f.message⟩ :: notes }

/-- Judges the tasks as far as they have ended, the statement by what it gave. -/
def Progress.judge {α : Type} (statement : Option (Attempt α)) (p : Progress) : Progress :=
  match p.errand.verdict with
  | some _ => p
  | none =>
    match firstCause (failuresOf statement p.errand.result) with
    | some f => p.giveUp f
    | none => p

/-- Lets the upload run until it ends or waits. -/
def Progress.upload (p : Progress) : Progress :=
  match p.errand.result with
  | some _ => p
  | none =>
    let (ending, endpoint, scopes, notes) :=
      p.endpoint.upload (some p.errand.scope) p.errand.separator p.errand.files p.scopes
    let p := { p with endpoint, scopes, notes := p.notes ++ notes }
    match ending with
    | .done result => { p with errand := { p.errand with result := some result } }
    | .stuck => p

end ExaWire.Import
