/-
ExaWire/Proofs/Script/Named.lean

Calls on scopes by name are events of a history.

A name that is known stands for a scope that was made (`Known`), so a call on it is lawful;
a call on a name that is not known is nothing.  Hence whatever was called by name, the scopes
that there are come from a lawful history, and the next call gives what its event gives there
(`play_answers`).
-/
import ExaWire.Proofs.Scope.History

namespace ExaWire.Script.Named

open Scopes (Event Lawful through lawful_append through_append)

/-- Every name stands for a scope that was made. -/
def Known (n : Named) : Prop := ∀ name id, n.names.lookup name = some id → id < n.scopes.length

/-- The event that a call is, if its name is known. -/
def event? (name : String) (n : Named) (call : ScopeCall) : Option Event :=
  match call, n.names.lookup name with
  | .make deadline parent, _ => some (.make deadline (parent.bind fun p => n.names.lookup p))
  | _, none => none
  | .child _, some id => some (.make .none (some id))
  | .cancel cause, some id => some (.cancel id cause)
  | .isCancelled, some id => some (.isCancelled id)
  | .cause, some id => some (.cause id)
  | .deadline, some id => some (.remaining id)

/-- The named scopes after calls. -/
def after (n : Named) (calls : List (String × ScopeCall)) : Named :=
  calls.foldl (fun n call => (n.take call.1 call.2).2) n

variable {n : Named} {name : String} {call : ScopeCall}

/-- A call does what its event does, and gives what its event gives. -/
theorem take_event (name : String) (n : Named) (call : ScopeCall) :
    (n.take name call).1 = ((n.event? name call).map (·.answer n.scopes)).getD .nothing ∧
      (n.take name call).2.scopes = ((n.event? name call).map (·.next n.scopes)).getD n.scopes := by
  unfold take event?
  cases call
  case make => exact ⟨rfl, rfl⟩
  all_goals cases n.names.lookup name <;> exact ⟨rfl, rfl⟩

theorem lawful_event (known : n.Known) {event : Event} (h : n.event? name call = some event) :
    event.Lawful n.scopes := by
  unfold event? at h
  cases call with
  | make deadline parent =>
    obtain rfl := Option.some.inj h
    intro p given
    obtain ⟨name', -, found⟩ := Option.bind_eq_some_iff.1 given
    exact known name' p found
  | child _ | cancel _ | isCancelled | cause | deadline =>
    cases found : n.names.lookup name with
    | none => rw [found] at h; cases h
    | some id =>
      rw [found] at h
      obtain rfl := Option.some.inj h
      have made : id < n.scopes.length := known name id found
      first
      | exact made
      | exact fun p given => Option.some.inj given ▸ made

/-- Names stay known while scopes are only added. -/
theorem Known.scopes (known : n.Known) {scopes : Scopes} (longer : n.scopes.length ≤ scopes.length) :
    Known { n with scopes } := fun name id found => Nat.lt_of_lt_of_le (known name id found) longer

theorem known_make (known : n.Known) (name : String) (deadline : Deadline) (parent : Option ScopeId) :
    (n.make name deadline parent).Known := by
  intro other id found
  show id < n.scopes.length + 1
  rw [make, Scopes.create, List.lookup_cons] at found
  split at found
  · obtain rfl := Option.some.inj found
    exact Nat.lt_succ_self _
  · exact Nat.lt_succ_of_lt (known other id found)

theorem known_take (known : n.Known) (name : String) (call : ScopeCall) : (n.take name call).2.Known := by
  unfold take
  cases call with
  | make deadline parent => exact known_make known _ _ _
  | child _ | cancel _ | isCancelled | cause | deadline =>
    cases n.names.lookup name with
    | none => exact known
    | some id =>
      first
      | exact known
      | exact known_make known _ _ _
      | exact known.scopes (Nat.le_of_eq (Scopes.length_cancel _ _ _).symm)
      | exact known.scopes (Nat.le_of_eq (Scopes.length_poll _ _).symm)

/-- The scopes that calls by name lead to come from a lawful history. -/
theorem after_history (calls : List (String × ScopeCall)) :
    (after {} calls).Known ∧ ∃ events, Lawful [] events ∧ (after {} calls).scopes = through [] events := by
  induction calls using List.reverseRecOn with
  | nil => exact ⟨nofun, [], trivial, rfl⟩
  | append_singleton calls call ih =>
    obtain ⟨known, events, lawful, reached⟩ := ih
    have last : after {} (calls ++ [call]) = ((after {} calls).take call.1 call.2).2 := List.foldl_append
    rw [last]
    refine ⟨known_take known _ _, ?_⟩
    rw [(take_event _ _ _).2]
    cases occurs : (after {} calls).event? call.1 call.2 with
    | none => exact ⟨events, lawful, reached⟩
    | some event =>
      have allowed : event.Lawful (through [] events) := reached ▸ lawful_event known occurs
      refine ⟨events ++ [event], lawful_append.2 ⟨lawful, allowed, trivial⟩, ?_⟩
      rw [through_append, ← reached]
      rfl

theorem play_append (n : Named) (calls : List (String × ScopeCall)) (name : String) (call : ScopeCall) :
    n.play (calls ++ [(name, call)]) = n.play calls ++ [((n.after calls).take name call).1] := by
  induction calls generalizing n with
  | nil => rfl
  | cons first calls ih => exact congrArg (_ :: ·) (ih _)

/-- Whatever was called by name, a call gives what its event gives after a lawful history. -/
theorem play_answers (calls : List (String × ScopeCall)) (name : String) (call : ScopeCall) :
    ∃ events, Lawful [] events ∧ play {} (calls ++ [(name, call)]) = play {} calls ++
      [(((after {} calls).event? name call).map (·.answer (through [] events))).getD .nothing] := by
  obtain ⟨-, events, lawful, reached⟩ := after_history calls
  exact ⟨events, lawful, by rw [play_append, (take_event _ _ _).1, reached]⟩

end ExaWire.Script.Named
