/-
ExaWire/Proofs/Script/Finished.lean

A transaction ends at most once, whatever is done around it.

Three kinds of calls are made on a transaction: to commit, to roll back, and the end of a
block that it guards.  Each attempts one statement (`Call.ending`), and all other calls spare
the transaction.

So the life of a transaction is told by its attempts: nothing happens at the first ones, as
long as its session is closed; one of them finishes it and writes a frame at most; and the
later ones are refused.
-/
import ExaWire.Proofs.Script.Holding
import ExaWire.Proofs.Transaction

namespace ExaWire.Script

open Network Stage

variable {ω : Type} {env : Environment ω} {x : String} {t : Transaction} {d : Dialogue ω}

/-! ### Calls that end a transaction -/

/-- The statement that a block leads to which guards a transaction that is not finished. -/
def Body.ending : Body → String
  | .nothing | .commit => "COMMIT"
  | .interrupt | .rollback => "ROLLBACK"

/-- The statement that a call tries on a transaction that is not finished. -/
def Call.ending : Call → Option String
  | .commit => some "COMMIT"
  | .rollback => some "ROLLBACK"
  | .guardObject body => some body.ending
  | _ => none

/-- What a block comes to which guards a transaction that is finished: the end of it does
nothing. -/
def Body.refused : Body → Attempt Unit
  | .nothing => .ok ()
  | .interrupt => fault .interrupted
  | .commit | .rollback => .error Transaction.finishedFailure

/-- What a call comes to on a transaction that is finished. -/
def Call.refused : Call → Attempt Unit
  | .guardObject body => body.refused
  | _ => .error Transaction.finishedFailure

/-- What is told of an attempt that gives nothing. -/
def told : Attempt Unit → Except Trouble Given
  | .ok () => .ok .done
  | .error f => .error (.failed f)

variable (env) in
theorem Body.attempted (body : Body) (t : Transaction) (c : Client ω) :
    Transaction.Attempted env body.ending body.refused t c
      (Held.guarded (body.onTransaction env) (Transaction.leave env) (t, c)) := by
  cases body with
  | nothing => exact Transaction.guarded_of_still (r := .ok ()) rfl
  | interrupt => exact Transaction.guarded_of_still (r := fault .interrupted) rfl
  | commit => exact Transaction.guarded_of_attempted (Transaction.finish_attempted env "COMMIT" t c)
  | rollback => exact Transaction.guarded_of_attempted (Transaction.finish_attempted env "ROLLBACK" t c)

theorem finish_told (h : d.Holds x (.transaction t)) (sql : String) {r : Attempt Unit} {t' : Transaction}
    {c : Client ω} (ran : Transaction.finish env sql (t, d.client) = (r, t', c)) :
    ∃ d' : Dialogue ω, onTransaction x (do Transaction.finish env sql; return Given.done) d =
      (told r, d') ∧ d'.client = c ∧ d'.Holds x (.transaction t') := by
  have ran' : (do Transaction.finish env sql; return Given.done : Held Transaction ω Given)
      (t, d.client) = (r.map fun _ => .done, t', c) := by
    rw [bind_apply, ran]
    cases r with
    | ok _ => rfl
    | error f => rfl
  obtain ⟨d', kept, further⟩ := onKept_holds (x := x) h.hasSession .transaction ran'
  refine ⟨d', ?_, further⟩
  unfold onTransaction
  rw [bind_apply, find_apply h.object]
  refine kept.trans ?_
  cases r with
  | ok _ => rfl
  | error f => rfl

theorem guard_told (h : d.Holds x (.transaction t)) (body : Body) {r : Attempt Unit} {t' : Transaction}
    {c : Client ω} (ran : Held.guarded (body.onTransaction env) (Transaction.leave env)
      (t, d.client) = (r, t', c)) :
    ∃ d' : Dialogue ω, (do guardObject env x body; return .done : Stage ω Given) d =
      (told r, d') ∧ d'.client = c ∧ d'.Holds x (.transaction t') := by
  obtain ⟨d', kept, further⟩ := onKept_holds (x := x) h.hasSession .transaction ran
  refine ⟨d', ?_, further⟩
  have guarded : guardObject env x body d = ofAttempt r d' := by
    unfold guardObject
    rw [bind_apply, find_apply h.object]
    exact kept
  rw [bind_apply, guarded]
  cases r with
  | ok _ => rfl
  | error f => rfl

/-- A call that ends transactions makes one attempt to end the one that it is made on. -/
theorem Call.perform_attempts {call : Call} {sql : String} (h : d.Holds x (.transaction t))
    (ends : call.ending = some sql) (scope : Option ScopeId) :
    ∃ r t' c d', Transaction.Attempted env sql call.refused t d.client (r, t', c) ∧
      call.perform env x scope d = (told r, d') ∧ d'.client = c ∧ d'.Holds x (.transaction t') := by
  have finished (sql : String) : ∃ r t' c d',
      Transaction.Attempted env sql (.error Transaction.finishedFailure) t d.client (r, t', c) ∧
      onTransaction x (do Transaction.finish env sql; return Given.done) d = (told r, d') ∧
      d'.client = c ∧ d'.Holds x (.transaction t') := by
    have attempted := Transaction.finish_attempted env sql t d.client
    rcases ran : Transaction.finish env sql (t, d.client) with ⟨r, t', c⟩
    obtain ⟨d', told⟩ := finish_told h sql ran
    exact ⟨r, t', c, d', ran ▸ attempted, told⟩
  unfold Call.perform
  cases call with
  | commit =>
    cases ends
    exact finished "COMMIT"
  | rollback =>
    cases ends
    exact finished "ROLLBACK"
  | guardObject body =>
    cases ends
    have attempted := body.attempted env t d.client
    rcases ran : Held.guarded (body.onTransaction env) (Transaction.leave env) (t, d.client) with
      ⟨r, t', c⟩
    obtain ⟨d', told⟩ := guard_told h body ran
    exact ⟨r, t', c, d', ran ▸ attempted, told⟩
  | _ => cases ends

/-! ### One move -/

variable {m : Move ω} {sql : String}

/-- The calls on a transaction are those that end it. -/
theorem Call.suits_transaction (call : Call) (t : Transaction) :
    call.suits (.transaction t) = call.ending.isSome := by
  cases call with
  | _ => rfl

theorem isOn_transaction (h : d.Holds x (.transaction t)) :
    m.IsOn x d ↔ m.name = x ∧ ∃ sql, m.call.ending = some sql := by
  rw [h.isOn, Call.suits_transaction, Option.isSome_iff_exists]

/-- What a move that attempts to end a transaction with a statement comes to. -/
structure Dialogue.Attempts (env : Environment ω) (x : String) (t : Transaction) (sql : String)
    (d : Dialogue ω) (m : Move ω) : Prop where
  /-- a transaction that is finished refuses the attempt, and the end of a block does nothing -/
  finished : t.isFinished = true → (d.make env m).1 = told m.call.refused ∧
    (d.make env m).2.client = m.meet d.client ∧ (d.make env m).2.Holds x (.transaction t)
  /-- nothing is done if the session is closed, and the transaction is not finished -/
  closed : t.isFinished = false → ¬ t.IsAlive d.client.session →
    (d.make env m).1 = .error (.failed Session.closedFailure) ∧
    (d.make env m).2.client = m.meet d.client ∧ (d.make env m).2.Holds x (.transaction t)
  /-- otherwise the statement is tried, and whatever becomes of it, the transaction is finished -/
  pending : t.IsAlive d.client.session →
    (d.make env m).2.client = (Statement.simple env sql none (m.meet d.client)).2 ∧
    (d.make env m).2.Holds x (.transaction ⟨none⟩)
  /-- nothing is written unless the session is open -/
  silent : d.client.session.phase ≠ .open → (d.make env m).2.client.frames = d.client.frames

variable (env) in
theorem Dialogue.Holds.attempts (h : d.Holds x (.transaction t)) (name : m.name = x)
    (ends : m.call.ending = some sql) : d.Attempts env x t sql m := by
  obtain ⟨r, t', c, d', attempted, made, client, holds⟩ := Call.perform_attempts (h.met m) ends m.scope
  rw [← name] at made
  have turn : d.make env m = (told r, d') := made
  constructor
  case finished =>
    intro done
    cases attempted.finished done
    rw [turn]
    exact ⟨rfl, client, holds⟩
  case closed =>
    intro unfinished dead
    cases attempted.closed unfinished dead
    rw [turn]
    exact ⟨rfl, client, holds⟩
  case pending =>
    intro alive
    cases attempted.pending alive
    rw [turn]
    exact ⟨client, holds⟩
  case silent =>
    intro notOpen
    rw [turn, client, ← m.frames_meet d.client]
    by_cases alive : t.IsAlive d.client.session
    · cases attempted.pending alive
      obtain frames | ⟨isOpen, -⟩ := Statement.asksFor_simple env sql (m.meet d.client)
      · exact frames
      · exact absurd isOpen notOpen
    · cases done : t.isFinished with
      | true =>
        cases attempted.finished done
        rfl
      | false =>
        cases attempted.closed done alive
        rfl

variable (env) in
/-- Between two moves a transaction is where it was, or it was finished by an attempt. -/
theorem Dialogue.Holds.make (h : d.Holds x (.transaction t)) (makes : m.call.makes m.name ≠ some x) :
    (d.make env m).2.Holds x (.transaction t) ∨
      t.isFinished = false ∧ (d.make env m).2.Holds x (.transaction ⟨none⟩) := by
  by_cases own : m.IsOn x d
  case neg => exact .inl (h.spared makes own)
  case pos =>
    obtain ⟨name, sql, ending⟩ := (isOn_transaction h).1 own
    have attempts := h.attempts env name ending
    by_cases alive : t.IsAlive d.client.session
    · exact .inr ⟨alive.not_finished, (attempts.pending alive).2⟩
    · cases done : t.isFinished with
      | true => exact .inl (attempts.finished done).2.2
      | false => exact .inl (attempts.closed done alive).2.2

/-! ### The life of a transaction -/

variable (env) in
/-- A move writes no frame on behalf of a transaction that is finished, and leaves it so. -/
theorem Dialogue.Holds.framesOn_nil (h : d.Holds x (.transaction t)) (done : t.isFinished = true)
    {moves : List (Move ω)} (lives : ∀ m ∈ moves, m.call.makes m.name ≠ some x) :
    d.framesOn env x moves = [] ∧ (d.after env moves).Holds x (.transaction t) := by
  induction moves generalizing d with
  | nil => exact ⟨rfl, h⟩
  | cons m moves ih =>
    obtain ⟨makes, others⟩ := List.forall_mem_cons.1 lives
    have next : (d.make env m).2.Holds x (.transaction t) := by
      obtain same | ⟨unfinished, -⟩ := h.make env makes
      · exact same
      · cases done.symm.trans unfinished
    obtain ⟨rest, further⟩ := ih next others
    refine ⟨?_, further⟩
    by_cases own : m.IsOn x d
    · obtain ⟨name, sql, ending⟩ := (isOn_transaction h).1 own
      have frames : (d.make env m).2.client.frames = d.client.frames ++ [] := by
        rw [((h.attempts env name ending).finished done).2.1, m.frames_meet, List.append_nil]
      rw [framesOn_of_isOn own frames, rest, List.nil_append]
    · rw [framesOn_of_not_isOn own, rest]

variable (env) in
theorem Dialogue.Holds.after (h : d.Holds x (.transaction t)) {moves : List (Move ω)}
    (lives : ∀ m ∈ moves, m.call.makes m.name ≠ some x) :
    ∃ t', (d.after env moves).Holds x (.transaction t') := by
  induction moves generalizing d t with
  | nil => exact ⟨t, h⟩
  | cons m moves ih =>
    obtain ⟨makes, others⟩ := List.forall_mem_cons.1 lives
    obtain next | ⟨-, next⟩ := h.make env makes
    · exact ih next others
    · exact ih next others

theorem Call.endsTransaction {call : Call} (ending : call.ending = some sql) {codec : Codec}
    {frame : Frame} (executes : frame.Executes codec sql) : frame.EndsTransaction codec := by
  cases call with
  | commit => cases ending; exact .inl executes
  | rollback => cases ending; exact .inr executes
  | guardObject body =>
    cases ending
    cases body with
    | nothing | commit => exact .inl executes
    | interrupt | rollback => exact .inr executes
  | _ => cases ending

/-- The attempts of a whole life write one frame at most. -/
theorem Dialogue.Holds.framesOn_le_one (h : d.Holds x (.transaction t)) {moves : List (Move ω)}
    (lives : ∀ m ∈ moves, m.call.makes m.name ≠ some x) :
    d.framesOn env x moves = [] ∨
      ∃ frame : Frame, frame.EndsTransaction env.codec ∧ d.framesOn env x moves = [frame] := by
  induction moves generalizing d t with
  | nil => exact .inl rfl
  | cons m moves ih =>
    obtain ⟨makes, others⟩ := List.forall_mem_cons.1 lives
    by_cases own : m.IsOn x d
    · obtain ⟨name, sql, ending⟩ := (isOn_transaction h).1 own
      have attempts := h.attempts env name ending
      by_cases alive : t.IsAlive d.client.session
      · -- the transaction is finished now, so whatever comes later writes nothing
        obtain ⟨client, finished⟩ := attempts.pending alive
        obtain ⟨later, -⟩ := finished.framesOn_nil env rfl others
        obtain frames | ⟨-, frame, executes, frames⟩ :=
          Statement.asksFor_simple env sql (m.meet d.client)
        · rw [← client, m.frames_meet, ← List.append_nil d.client.frames] at frames
          rw [framesOn_of_isOn own frames, later]
          exact .inl rfl
        · rw [← client, m.frames_meet] at frames
          rw [framesOn_of_isOn own frames, later]
          exact .inr ⟨frame, Call.endsTransaction ending executes, rfl⟩
      · -- nothing is written, and the transaction goes on as it was
        have same : (d.make env m).2.client = m.meet d.client ∧
            (d.make env m).2.Holds x (.transaction t) := by
          cases done : t.isFinished with
          | true => exact (attempts.finished done).2
          | false => exact (attempts.closed done alive).2
        have frames : (d.make env m).2.client.frames = d.client.frames ++ [] := by
          rw [same.1, m.frames_meet, List.append_nil]
        rw [framesOn_of_isOn own frames, List.nil_append]
        exact ih same.2 others
    · rw [framesOn_of_not_isOn own]
      exact ih (h.spared makes own) others

/-- What is known of the life of a transaction, in which no other object takes its place. -/
structure EndsOnce (env : Environment ω) (x : String) (d : Dialogue ω) (moves : List (Move ω)) :
    Prop where
  /-- its attempts write one frame at most -/
  frames : d.framesOn env x moves = [] ∨
    ∃ frame : Frame, frame.EndsTransaction env.codec ∧ d.framesOn env x moves = [frame]
  /-- each attempt is refused, does nothing, or finishes the transaction -/
  attempts : ∀ before m behind sql, moves = before ++ m :: behind → m.name = x →
    m.call.ending = some sql →
    ∃ t, (d.after env before).Holds x (.transaction t) ∧ (d.after env before).Attempts env x t sql m
  /-- once it is finished, it stays so, and nothing more is written for it -/
  lasting : ∀ before behind t, moves = before ++ behind → (d.after env before).Holds x (.transaction t) →
    t.isFinished = true →
    (d.after env before).framesOn env x behind = [] ∧ (d.after env moves).Holds x (.transaction t)

/-- How a transaction is begun: nothing is written, and nothing else is changed; it works only if
the session is not closed and does not commit by itself. -/
structure Begins (env : Environment ω) (x : String) (d : Dialogue ω) (m : Move ω) : Prop where
  client : (d.make env m).2.client = m.meet d.client
  succeeds : (d.make env m).1 = .ok .done ↔
    d.client.session.isClosed = false ∧ d.client.session.config.autocommit = false
  holds : (d.make env m).1 = .ok .done → (d.make env m).2.Holds x (.transaction (.on d.client.session))

theorem start_eq_ok {s : Session} {t : Transaction} : Transaction.start s = .ok t ↔
    (s.isClosed = false ∧ s.config.autocommit = false) ∧ t = .on s := by
  have live : s.live s.serial = if s.isClosed then .error Session.closedFailure else .ok () := by
    cases closed : s.isClosed with
    | true => exact if_neg (by simp [closed])
    | false => exact if_pos (by simp [closed])
  unfold Transaction.start
  rw [live]
  cases s.isClosed with
  | true => simp [bind, Except.bind]
  | false => cases s.config.autocommit <;> simp [bind, Except.bind, eq_comm]

theorem begin_apply (c : Client ω) :
    (Connection.begin : Action ω Transaction) c = (Transaction.start c.session, c) := by
  unfold Connection.begin
  rw [bind_apply, Connection.ensureOpen_apply]
  cases closed : c.session.isClosed with
  | true =>
    have refused : Transaction.start c.session = .error Session.closedFailure := by
      unfold Transaction.start Session.live
      rw [if_neg (by simp [closed])]
      rfl
    rw [refused]
    rfl
  | false => rfl

theorem begins (hs : d.hasSession = true) (name : m.name = x) (call : m.call = .begin) :
    Begins env x d m := by
  let d₁ : Dialogue ω :=
    { d with client := m.meet d.client, objects := d.objects.filter (·.1 ≠ x) }
  have began : (act Connection.begin : Stage ω Transaction) d₁ =
      ofAttempt (Transaction.start d.client.session) d₁ := by
    rw [act_apply (d := d₁) hs, begin_apply]
    rfl
  have made : d.make env m =
      (do keep x (.transaction (← act Connection.begin)); return .done : Stage ω Given) d₁ := by
    unfold Dialogue.make
    rw [call, name]
    rfl
  rw [bind_apply, began] at made
  rcases started : Transaction.start d.client.session with f | t
  · rw [started] at made
    constructor
    case client =>
      rw [made]
      rfl
    case succeeds =>
      rw [made]
      refine ⟨nofun, fun sound => ?_⟩
      cases started.symm.trans (start_eq_ok.2 ⟨sound, rfl⟩)
    case holds =>
      rw [made]
      nofun
  · rw [started] at made
    obtain ⟨sound, rfl⟩ := start_eq_ok.1 started
    constructor
    case client =>
      rw [made]
      rfl
    case succeeds =>
      rw [made]
      exact ⟨fun _ => sound, fun _ => rfl⟩
    case holds =>
      rw [made]
      exact fun _ => ⟨hs, List.lookup_cons_self⟩

/-- A transaction ends at most once. -/
theorem transaction_ends_once (env : Environment ω) (d : Dialogue ω) (hs : d.hasSession = true)
    (x : String) :
    (∀ m : Move ω, m.name = x → m.call = .begin → Begins env x d m) ∧
    ∀ t moves, d.objects.lookup x = some (.transaction t) →
      (∀ m ∈ moves, m.call.makes m.name ≠ some x) → EndsOnce env x d moves := by
  constructor
  · intro m name call
    exact begins hs name call
  · intro t moves object lives
    have h : d.Holds x (.transaction t) := ⟨hs, object⟩
    constructor
    case frames => exact h.framesOn_le_one lives
    case attempts =>
      rintro before m behind sql rfl name ending
      obtain ⟨t', holds⟩ := h.after env fun n hn => lives n (List.mem_append_left _ hn)
      exact ⟨t', holds, holds.attempts env name ending⟩
    case lasting =>
      rintro before behind t' rfl holds done
      have quiet := holds.framesOn_nil env done fun n hn => lives n (List.mem_append_right _ hn)
      rw [Dialogue.after_append]
      exact quiet

/-- A dialogue with a transaction, and the reply to one statement at hand. -/
def undecided : Dialogue (List Bytes) where
  client := {
    session := { phase := .open, attached := true }
    wire := [cannedReply ["\x7b\"numResults\": 1, ", "\"results\": [\x7b\"rowCount\": 0\x7d]\x7d"]] }
  objects := [("x", .transaction ⟨some 0⟩)]

/-- It is committed inside its block; then neither the end of the block nor a second attempt
writes a frame. -/
theorem undecided_ends_once :
    let moves : List (Move (List Bytes)) :=
      [{ call := .guardObject .commit }, { call := .guardObject .nothing }, { call := .rollback }]
    undecided.hasSession = true ∧
      undecided.objects.lookup "x" = some (.transaction ⟨some 0⟩) ∧
      (∀ m ∈ moves, m.call.makes m.name ≠ some "x") ∧
      EndsOnce cannedEnvironment "x" undecided moves ∧
      (undecided.framesOn cannedEnvironment "x" moves).length = 1 := by
  intro moves
  have lives : ∀ m ∈ moves, m.call.makes m.name ≠ some "x" := by simp [moves, Call.makes]
  refine ⟨rfl, rfl, lives, ?_, ?_⟩
  · exact (transaction_ends_once cannedEnvironment undecided rfl "x").2 _ moves rfl lives
  · decide +kernel

end ExaWire.Script
