/-
ExaWire/Proofs/Transaction.lean

A transaction is good for one attempt.

What an attempt comes to is decided by where the transaction stands: one that is finished
refuses it, one whose session is closed is left as it is, and any other is finished by it,
whatever becomes of the statement (`Attempted`).  The end of a block is an attempt of its
own, unless the transaction is finished by then.
-/
import ExaWire.Proofs.Session.Retirement
import ExaWire.Proofs.Session.Tried
import ExaWire.Transaction

namespace ExaWire

open Network Session

variable {ω α : Type} {env : Environment ω} {c : Client ω}

/-! ### Statements that are sent as they are -/

/-- A frame asks for a statement to be executed as it is. -/
def Network.Frame.Executes (codec : Codec) (sql : String) (frame : Frame) : Prop :=
  ∃ maxRows : Int, encode codec frame.binary (Command.execute (.text sql) (.int maxRows)) = .ok frame.payload

/-- A frame asks for the end of a transaction. -/
def Network.Frame.EndsTransaction (codec : Codec) (frame : Frame) : Prop :=
  frame.Executes codec "COMMIT" ∨ frame.Executes codec "ROLLBACK"

/-- A client asked for a statement at most once, and did not ask unless its session was open. -/
def Client.AsksFor (env : Environment ω) (sql : String) (c c' : Client ω) : Prop :=
  c'.frames = c.frames ∨ c.session.phase = .open ∧
    ∃ frame : Frame, frame.Executes env.codec sql ∧ c'.frames = c.frames ++ [frame]

theorem Statement.asksFor_simple (env : Environment ω) (sql : String) (c : Client ω) :
    c.AsksFor env sql (Statement.simple env sql none c).2 := by
  let request := Command.execute (.text sql) (.int c.session.config.resultSetMaxRows)
  -- on a session that is not open nothing happens at all
  have sent : Ends (Session.send env request QueryReply.ofValue none) c fun _ c' =>
      c.AsksFor env sql c' := by
    by_cases isOpen : c.session.phase = .open
    · refine Ends.mono (ends_send_once _ QueryReply.ofValue c) ?_
      rintro r c' (⟨-, rfl⟩ | tried)
      · exact .inl rfl
      · obtain frames | ⟨payload, encoded, frames⟩ := tried.frames
        · exact .inl frames
        · exact .inr ⟨isOpen, ⟨payload, c.session.compressing⟩, ⟨_, encoded⟩, frames⟩
    · have unchanged := Client.send_of_not_open isOpen env request QueryReply.ofValue none
      exact .inl (congrArg Client.frames unchanged)
  have all : Ends (Statement.simple env sql none) c fun _ c' => c.AsksFor env sql c' := by
    refine .session (.ofAttempt (fun _ _ => ?_) fun f _ => .inl rfl)
    refine Ends.bind sent ?_ ?_
    · exact fun reply c' asks => asks
    · exact fun f c' asks => asks
  exact all

namespace Transaction

open Held

variable {t : Transaction} {sql : String}

/-! ### One attempt -/

/-- The refusal of an attempt on a transaction that is finished. -/
def finishedFailure : Failure := .of .finished "invalid connection: transaction already finished"

/-- A transaction belongs to a session, which is not closed. -/
structure IsAlive (t : Transaction) (s : Session) : Prop where
  serial : t.serial = some s.serial
  open' : s.isClosed = false

/-- What an attempt to end a transaction with a statement comes to; `refused` is what it comes to
once the transaction is finished. -/
structure Attempted (env : Environment ω) (sql : String) (refused : Attempt Unit) (t : Transaction)
    (c : Client ω) (turn : Attempt Unit × Transaction × Client ω) : Prop where
  finished : t.isFinished = true → turn = (refused, t, c)
  closed : t.isFinished = false → ¬ t.IsAlive c.session → turn = (.error closedFailure, t, c)
  pending : t.IsAlive c.session → turn.2 = (⟨none⟩, (Statement.simple env sql none c).2)

theorem IsAlive.not_finished {s : Session} (h : t.IsAlive s) : t.isFinished = false := by
  show t.serial.isNone = false
  rw [h.serial]
  rfl

theorem live_of_not_alive {s : Session} {serial : Nat} (kept : t.serial = some serial)
    (dead : ¬ t.IsAlive s) : s.live serial = .error closedFailure := by
  refine if_neg ?_
  rintro ⟨same, isOpen⟩
  exact dead ⟨same ▸ kept, by simpa using isOpen⟩

theorem finish_attempted (env : Environment ω) (sql : String) (t : Transaction) (c : Client ω) :
    Attempted env sql (.error finishedFailure) t c (finish env sql (t, c)) := by
  constructor
  case finished =>
    intro h
    obtain ⟨_ | serial⟩ := t
    · rfl
    · cases h
  case closed =>
    intro unfinished dead
    obtain ⟨_ | serial⟩ := t
    · cases unfinished
    · show (do ofAttempt (c.session.live serial); _ : Held Transaction ω Unit) (⟨some serial⟩, c) = _
      rw [live_of_not_alive rfl dead]
      rfl
  case pending =>
    intro alive
    obtain ⟨_ | serial⟩ := t
    · cases alive.serial
    · have live : c.session.live serial = .ok () := by
        refine if_pos ⟨?_, by simp [alive.open']⟩
        cases alive.serial
        rfl
      have ends : Ends (finish env sql) (⟨some serial⟩, c) fun _ s =>
          s = (⟨none⟩, (Statement.simple env sql none c).2) := by
        refine .object (.actSession (.heldOfAttempt_ok live (.change ?_)))
        refine .act (R := fun _ c' => c' = (Statement.simple env sql none c).2) rfl ?_ ?_
        · rintro _ _ rfl
          exact .pure rfl
        · rintro _ _ rfl
          rfl
      exact ends

/-! ### Blocks -/

theorem leave_of_finished (h : t.isFinished = true) (failed : Bool) (c : Client ω) :
    leave env failed (t, c) = (.ok (), (t, c)) := by
  show (if t.isFinished then pure () else _ : Held Transaction ω Unit) (t, c) = _
  rw [if_pos h]
  rfl

/-- The end of a block attempts to commit exactly if its body did not fail, and to roll back exactly
if it did. -/
theorem leave_of_not_finished (h : t.isFinished = false) (failed : Bool) (c : Client ω) :
    leave env failed (t, c) = finish env (if failed then "ROLLBACK" else "COMMIT") (t, c) := by
  show (if t.isFinished then _ else _ : Held Transaction ω Unit) (t, c) = _
  rw [if_neg (by simp [h])]
  cases failed with
  | true => rfl
  | false => rfl

/-- A block whose body has finished the transaction comes to what its body came to. -/
theorem guarded_of_finished {body : Held Transaction ω Unit} {r : Attempt Unit} {t' : Transaction}
    {c' : Client ω} (ran : body (t, c) = (r, t', c')) (h : t'.isFinished = true) :
    guarded body (leave env) (t, c) = (r, t', c') := by
  show (do leave env _; ofAttempt (body (t, c)).1 : Held Transaction ω Unit) (body (t, c)).2 = _
  rw [bind_apply, ran, leave_of_finished h]
  rfl

/-- The statement that the end of a block tries, by what its body came to. -/
def ending : Attempt Unit → String
  | .ok _ => "COMMIT"
  | .error _ => "ROLLBACK"

/-- A block whose body leaves the transaction as it was ends it, and a failure of that hides what the
body came to. -/
theorem guarded_of_not_finished {body : Held Transaction ω Unit} {r : Attempt Unit}
    {t' : Transaction} {c' : Client ω} (ran : body (t, c) = (r, t', c'))
    (h : t'.isFinished = false) :
    guarded body (leave env) (t, c) =
      match finish env (ending r) (t', c') with
      | (.ok (), s) => (r, s)
      | (.error f, s) => (.error f, s) := by
  show (do leave env _; ofAttempt (body (t, c)).1 : Held Transaction ω Unit) (body (t, c)).2 = _
  rw [ran]
  cases r with
  | ok x =>
    show (do leave env false; ofAttempt (.ok x) : Held Transaction ω Unit) (t', c') = _
    rw [bind_apply, leave_of_not_finished h, ending, if_neg (by decide)]
    rcases finish env "COMMIT" (t', c') with ⟨_ | _, s⟩
    · rfl
    · rfl
  | error f =>
    show (do leave env true; ofAttempt (.error f) : Held Transaction ω Unit) (t', c') = _
    rw [bind_apply, leave_of_not_finished h, ending, if_pos rfl]
    rcases finish env "ROLLBACK" (t', c') with ⟨_ | _, s⟩
    · rfl
    · rfl

/-- A block whose body does nothing to the transaction attempts to end it. -/
theorem guarded_of_still {body : Held Transaction ω Unit} {r : Attempt Unit}
    (still : body (t, c) = (r, t, c)) :
    Attempted env (ending r) r t c (guarded body (leave env) (t, c)) := by
  have attempted := finish_attempted env (ending r) t c
  constructor
  case finished => exact fun h => guarded_of_finished still h
  case closed =>
    intro unfinished dead
    rw [guarded_of_not_finished still unfinished, attempted.closed unfinished dead]
  case pending =>
    intro alive
    have tried := attempted.pending alive
    rw [guarded_of_not_finished still alive.not_finished]
    rcases e : finish env (ending r) (t, c) with ⟨f | _, s⟩
    · rw [e] at tried
      exact tried
    · rw [e] at tried
      exact tried

/-- A block whose body attempts to end the transaction does no more than that. -/
theorem guarded_of_attempted {body : Held Transaction ω Unit}
    (ran : Attempted env sql (.error finishedFailure) t c (body (t, c))) :
    Attempted env sql (.error finishedFailure) t c (guarded body (leave env) (t, c)) := by
  constructor
  case finished => exact fun h => guarded_of_finished (ran.finished h) h
  case closed =>
    intro unfinished dead
    -- the body has left the transaction as it was, and the attempt at the end does so again
    rw [guarded_of_not_finished (ran.closed unfinished dead) unfinished,
      (finish_attempted env _ t c).closed unfinished dead]
  case pending =>
    intro alive
    have tried := ran.pending alive
    rcases e : body (t, c) with ⟨r, t', c'⟩
    rw [e] at tried
    cases tried
    rw [guarded_of_finished e rfl]

end Transaction
end ExaWire
