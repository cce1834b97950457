/-
ExaWire/Proofs/Import/Race.lean

The race of a statement and an upload, in every order.

`Race.Step` is one step of anybody who takes part: someone outside changes a scope,
someone asks one, the upload feeds the server, a task ends as it may, and the supervisor
goes on by one step.  A supervisor that wakes up sees of each task that it has ended, or
does not see it yet; it wakes when it sees a failure, or both ends.  From there it decides
at once, and what it does then are three more steps, between which anything may happen.

What every run keeps is said by `Stage`, one line for each thing the supervisor may be
at.  Steps of others are `Aside` of it: they add to what is known and take nothing back,
so that one lemma carries all lines over them.  From that follows `Joined`, which is what
a caller may rely on however the steps fall.
-/
import ExaWire.Import.Race
import ExaWire.Proofs.Scope

namespace ExaWire.Import

variable {α : Type} {f g : Failure}

/-! ### The failure that is reported -/

theorem mem_failuresOf {β : Type} {statement : Option (Attempt α)} {upload : Option (Attempt β)} :
    f ∈ failuresOf statement upload ↔ statement = some (.error f) ∨ upload = some (.error f) := by
  unfold failuresOf
  rw [List.mem_append]
  refine or_congr ?_ ?_
  · rcases statement with _ | g | a <;> simp [eq_comm]
  · rcases upload with _ | g | b <;> simp [eq_comm]

/-- The failure that is reported is one of those that are there. -/
theorem firstCause_mem {failures : List Failure} (h : firstCause failures = some f) :
    f ∈ failures := by
  unfold firstCause at h
  cases found : failures.find? (fun f => !f.isCancellation) with
  | some g =>
    rw [found] at h
    exact Option.some.inj h ▸ List.mem_of_find?_eq_some found
  | none =>
    rw [found] at h
    exact List.mem_of_mem_head? h

/-- A cancellation is reported only if there is nothing else to report. -/
theorem firstCause_isCancellation {failures : List Failure} (h : firstCause failures = some f)
    (cancellation : f.isCancellation) : ∀ g ∈ failures, g.isCancellation := by
  unfold firstCause at h
  cases found : failures.find? (fun f => !f.isCancellation) with
  | some g =>
    rw [found] at h
    have other := List.find?_some found
    rw [Option.some.inj h, cancellation] at other
    exact absurd other (by decide)
  | none =>
    intro g mem
    simpa using List.find?_eq_none.mp found g mem

/-- Something is reported exactly if there is a failure. -/
theorem firstCause_eq_none {failures : List Failure} : firstCause failures = none ↔ failures = [] := by
  unfold firstCause
  cases failures with
  | nil => simp
  | cons f rest =>
    cases (f :: rest).find? (fun f => !f.isCancellation) <;> simp

/-! ### The race -/

/-- What a supervisor is at. -/
inductive Watch (α : Type)
  /-- it waits for the tasks -/
  | waiting
  /-- it gives up for a failure -/
  | decided (f : Failure)
  /-- it has cancelled the scope -/
  | cancelled (f : Failure)
  /-- it has shut the connection down and waits for the task that is left -/
  | shut (f : Failure)
  | raised (f : Failure)
  /-- it has seen both tasks succeed -/
  | satisfied
  | returned (a : α)

/-- Whether the supervisor has given control back. -/
def Watch.isOver : Watch α → Bool
  | .raised _ | .returned _ => true
  | _ => false

theorem Watch.isOver_iff {watch : Watch α} :
    watch.isOver ↔ (∃ f, watch = .raised f) ∨ ∃ a, watch = .returned a := by
  cases watch <;> simp [isOver]

/-- The most steps that a supervisor still takes. -/
def Watch.ahead : Watch α → Nat
  | .waiting => 4
  | .decided _ => 3
  | .cancelled _ => 2
  | .shut _ | .satisfied => 1
  | .raised _ | .returned _ => 0

/-- How the two tasks ended, as far as they have. -/
structure Tally (α : Type) where
  statement : Option (Attempt α) := none
  upload : Option (Attempt Nat) := none

namespace Tally

/-- The failures among the ends, the statement's first. -/
def failures (t : Tally α) : List Failure := failuresOf t.statement t.upload

/-- Both tasks have ended. -/
def Ended (t : Tally α) : Prop := t.statement.isSome ∧ t.upload.isSome

/-- Both tasks have succeeded, the statement with a result. -/
def Succeeded (a : α) (t : Tally α) : Prop := t.statement = some (.ok a) ∧ ∃ n, t.upload = some (.ok n)

/-- Whatever ended in one tally ended so in the other. -/
structure Within (t t' : Tally α) : Prop where
  statement : ∀ r, t.statement = some r → t'.statement = some r
  upload : ∀ r, t.upload = some r → t'.upload = some r

theorem Within.refl (t : Tally α) : t.Within t := ⟨fun _ h => h, fun _ h => h⟩

theorem Within.failures {t t' : Tally α} (h : t.Within t') (mem : f ∈ t.failures) :
    f ∈ t'.failures := by
  unfold Tally.failures at mem ⊢
  rw [mem_failuresOf] at mem ⊢
  exact mem.imp (h.statement _) (h.upload _)

theorem Within.ended {t t' : Tally α} (h : t.Within t') (ended : t.Ended) : t'.Ended := by
  obtain ⟨statement, upload⟩ := ended
  obtain ⟨r, isStatement⟩ := Option.isSome_iff_exists.mp statement
  obtain ⟨n, isUpload⟩ := Option.isSome_iff_exists.mp upload
  exact ⟨Option.isSome_of_eq_some (h.statement r isStatement),
    Option.isSome_of_eq_some (h.upload n isUpload)⟩

theorem Within.succeeded {t t' : Tally α} {a : α} (h : t.Within t') (succeeded : t.Succeeded a) :
    t'.Succeeded a := by
  obtain ⟨statement, n, upload⟩ := succeeded
  exact ⟨h.statement _ statement, n, h.upload _ upload⟩

/-- Two tasks that have ended without a failure have succeeded. -/
theorem Ended.succeeded {t : Tally α} (ended : t.Ended) (none : t.failures = []) :
    ∃ a, t.Succeeded a := by
  obtain ⟨r, statement⟩ := Option.isSome_iff_exists.mp ended.1
  obtain ⟨n, upload⟩ := Option.isSome_iff_exists.mp ended.2
  have failed (f : Failure) (h : t.statement = some (.error f) ∨ t.upload = some (.error f)) :
      False := by
    have mem : f ∈ t.failures := mem_failuresOf.mpr h
    rw [none] at mem
    exact List.not_mem_nil mem
  cases r with
  | error f => exact (failed f (.inl statement)).elim
  | ok a =>
    cases n with
    | error f => exact (failed f (.inr upload)).elim
    | ok n => exact ⟨a, statement, n, upload⟩

theorem Succeeded.failures {t : Tally α} {a : α} (h : t.Succeeded a) : t.failures = [] := by
  obtain ⟨statement, n, upload⟩ := h
  unfold Tally.failures
  rw [statement, upload]
  rfl

theorem Succeeded.ended {t : Tally α} {a : α} (h : t.Succeeded a) : t.Ended := by
  obtain ⟨statement, n, upload⟩ := h
  exact ⟨Option.isSome_of_eq_some statement, Option.isSome_of_eq_some upload⟩

/-- What a supervisor makes of the ends that it sees. -/
def verdict (t : Tally α) : Watch α :=
  match firstCause t.failures with
  | some f => .decided f
  | none => .satisfied

end Tally

/-- A race: how its tasks ended, what its supervisor is at, the endpoint, and all
scopes. -/
structure Race (α : Type) where
  tasks : Tally α := {}
  watch : Watch α := .waiting
  endpoint : Endpoint
  scopes : Scopes

namespace Race

/-- What others than an import do to scopes. -/
inductive Change
  | cancel (id : ScopeId) (cause : Option Cause)
  /-- a deadline passes -/
  | expire (id : ScopeId)
  | create (deadline : Deadline) (parent : Option ScopeId)

/-- The scopes after a change. -/
def Change.apply (scopes : Scopes) : Change → Scopes
  | .cancel id cause => scopes.cancel id cause
  | .expire id => scopes.update Scope.expire id
  | .create deadline parent => (scopes.create deadline parent).2

/-- What can be told apart of the steps of a race. -/
inductive Act (α : Type)
  /-- someone else changes a scope -/
  | outside (change : Change)
  /-- someone asks a scope: a task, or anybody else -/
  | asked (id : ScopeId)
  /-- the upload feeds the server -/
  | fed
  /-- the statement ended -/
  | executed (r : Attempt α)
  /-- the upload ended -/
  | uploaded (r : Attempt Nat)
  /-- the supervisor wakes up and sees so much -/
  | noticed (seen : Tally α)
  | cancelled
  | shut
  | raised
  | returned

/-- Whether a step is the supervisor's. -/
def Act.isOfSupervisor : Act α → Bool
  | .noticed _ | .cancelled | .shut | .raised | .returned => true
  | _ => false

/-- One step of a race whose scope is `own`.  A task ends once, in whatever way and
whenever; the supervisor goes through its steps in order. -/
inductive Step (own : ScopeId) : Race α → Act α → Race α → Prop
  | outside (s : Race α) (change : Change) :
    Step own s (.outside change) { s with scopes := change.apply s.scopes }
  | asked (s : Race α) (id : ScopeId) :
    Step own s (.asked id) { s with scopes := (s.scopes.poll id).2 }
  | fed (s : Race α) (socket : Network.Socket) (pending : s.tasks.upload = none)
    (stands : socket.isShut = s.endpoint.socket.isShut) :
    Step own s .fed { s with endpoint := { s.endpoint with socket } }
  | executed (s : Race α) (r : Attempt α) (pending : s.tasks.statement = none) :
    Step own s (.executed r) { s with tasks := { s.tasks with statement := some r } }
  | uploaded (s : Race α) (r : Attempt Nat) (pending : s.tasks.upload = none) :
    Step own s (.uploaded r) { s with tasks := { s.tasks with upload := some r } }
  | noticed (s : Race α) (seen : Tally α) (waits : s.watch = .waiting)
    (happened : seen.Within s.tasks) (woken : seen.failures ≠ [] ∨ seen.Ended) :
    Step own s (.noticed seen) { s with watch := seen.verdict }
  | cancelled (s : Race α) (f : Failure) (stage : s.watch = .decided f) :
    Step own s .cancelled
      { s with watch := .cancelled f, scopes := s.scopes.cancel own (some (.failure f)) }
  | shut (s : Race α) (f : Failure) (stage : s.watch = .cancelled f) :
    Step own s .shut { s with watch := .shut f, endpoint := s.endpoint.abort.1 }
  | raised (s : Race α) (f : Failure) (stage : s.watch = .shut f) (ended : s.tasks.Ended) :
    Step own s .raised { s with watch := .raised f }
  | returned (s : Race α) (a : α) (stage : s.watch = .satisfied)
    (gave : s.tasks.statement = some (.ok a)) :
    Step own s .returned { s with watch := .returned a }

/-- The steps that led from one state of a race to another. -/
inductive Run (own : ScopeId) (start : Race α) : List (Act α) → Race α → Prop
  | nil : Run own start [] start
  | snoc {trace : List (Act α)} {s s' : Race α} {act : Act α} :
    Run own start trace s → Step own s act s' → Run own start (trace ++ [act]) s'

/-- A race as it begins: neither task has ended, nobody has noticed anything, the
connection stands and the scope was made. -/
structure Begun (own : ScopeId) (s : Race α) : Prop where
  tasks : s.tasks = {}
  watch : s.watch = .waiting
  isOpen : s.endpoint.isOpen
  made : own < s.scopes.length

variable {own : ScopeId} {start s s' : Race α} {trace : List (Act α)} {act : Act α}

/-! ### Steps of others -/

/-- A change of scopes leaves everyone cancelled who was, and makes no scope unknown. -/
theorem Change.isCancelled_apply (change : Change) {scopes : Scopes} {i : ScopeId}
    (made : i < scopes.length) (h : scopes.isCancelled i) : (change.apply scopes).isCancelled i := by
  cases change with
  | cancel id cause => exact Scopes.isCancelled_cancel id cause h
  | expire id => exact Scopes.isCancelled_update Scope.heeds_expire id h
  | create deadline parent => exact (Scopes.isCancelled_create deadline parent made).trans h

theorem Change.length_le (change : Change) (scopes : Scopes) :
    scopes.length ≤ (change.apply scopes).length := by
  cases change with
  | cancel id cause => exact Nat.le_of_eq (Scopes.length_cancel id cause scopes).symm
  | expire id => exact Nat.le_of_eq (Scopes.length_update _ id scopes).symm
  | create deadline parent => exact Nat.le_succ _

/-- What a step of others has in common: it adds to what is known, takes nothing back, and
leaves the supervisor where it is. -/
structure Aside (own : ScopeId) (s : Race α) (act : Act α) (s' : Race α) : Prop where
  act : act.isOfSupervisor = false
  watch : s'.watch = s.watch
  tasks : s.tasks.Within s'.tasks
  isOpen : s'.endpoint.isOpen = s.endpoint.isOpen
  isShut : s'.endpoint.socket.isShut = s.endpoint.socket.isShut
  made : s.scopes.length ≤ s'.scopes.length
  isCancelled : own < s.scopes.length → s.scopes.isCancelled own → s'.scopes.isCancelled own

/-- A step is the supervisor's, or aside of it. -/
theorem Step.aside (h : Step own s act s') (others : act.isOfSupervisor = false) :
    Aside own s act s' := by
  cases h with
  | outside change =>
    exact ⟨rfl, rfl, .refl _, rfl, rfl, change.length_le _, change.isCancelled_apply⟩
  | asked id =>
    exact ⟨rfl, rfl, .refl _, rfl, rfl, Nat.le_of_eq (Scopes.length_poll id _).symm,
      fun _ h => (Scopes.isCancelled_poll id _).trans h⟩
  | fed socket pending stands =>
    exact ⟨rfl, rfl, .refl _, rfl, stands, Nat.le_refl _, fun _ h => h⟩
  | executed r pending =>
    refine ⟨rfl, rfl, ⟨fun r' h => ?_, fun _ h => h⟩, rfl, rfl, Nat.le_refl _, fun _ h => h⟩
    exact absurd (h.symm.trans pending) (Option.some_ne_none r')
  | uploaded r pending =>
    refine ⟨rfl, rfl, ⟨fun _ h => h, fun r' h => ?_⟩, rfl, rfl, Nat.le_refl _, fun _ h => h⟩
    exact absurd (h.symm.trans pending) (Option.some_ne_none r')
  | noticed | cancelled | shut | raised | returned => nomatch others

/-! ### What a run keeps -/

/-- The supervisor has cancelled nothing and shut nothing down. -/
def Untouched (trace : List (Act α)) : Prop := .cancelled ∉ trace ∧ .shut ∉ trace

/-- A failure is one for which a supervisor may give up: it was seen, and a task had ended
in it, before anything was cancelled or shut down; and it is a cancellation only if all
failures that were seen are. -/
def Origin (trace : List (Act α)) (f : Failure) : Prop :=
  ∃ before seen after, trace = before ++ .noticed seen :: after ∧ Untouched before ∧
    f ∈ seen.failures ∧ (.executed (.error f) ∈ before ∨ .uploaded (.error f) ∈ before) ∧
    (f.isCancellation → ∀ g ∈ seen.failures, g.isCancellation)

theorem Origin.append (h : Origin trace f) (more : List (Act α)) : Origin (trace ++ more) f := by
  obtain ⟨before, seen, after, rfl, rest⟩ := h
  exact ⟨before, seen, after ++ more, by rw [List.append_assoc, List.cons_append], rest⟩

/-- Everything that ended was told. -/
structure Told (trace : List (Act α)) (t : Tally α) : Prop where
  statement : ∀ r, t.statement = some r → .executed r ∈ trace
  upload : ∀ r, t.upload = some r → .uploaded r ∈ trace

/-- The scope is cancelled and the connection was shut down. -/
structure Stopped (own : ScopeId) (trace : List (Act α)) (s : Race α) : Prop where
  isCancelled : s.scopes.isCancelled own
  isShut : s.endpoint.socket.isShut
  shut : .shut ∈ trace

/-- What holds at each thing that the supervisor may be at. -/
def Stage (own : ScopeId) (trace : List (Act α)) (s : Race α) : Watch α → Prop
  | .waiting => Untouched trace
  | .decided f => Origin trace f
  | .cancelled f => Origin trace f ∧ s.scopes.isCancelled own
  | .shut f => Origin trace f ∧ Stopped own trace s
  | .raised f => Origin trace f ∧ Stopped own trace s ∧ s.tasks.Ended
  | .satisfied => ∃ a, s.tasks.Succeeded a
  | .returned a => s.tasks.Succeeded a

/-- What holds after every run. -/
structure Sound (own : ScopeId) (trace : List (Act α)) (s : Race α) : Prop where
  made : own < s.scopes.length
  isOpen : s.endpoint.isOpen
  told : Told trace s.tasks
  stage : Stage own trace s s.watch

theorem Begun.sound (begun : Begun own s) : Sound own [] s where
  made := begun.made
  isOpen := begun.isOpen
  told := by
    rw [begun.tasks]
    exact ⟨fun _ h => absurd h (Option.some_ne_none _).symm, fun _ h => absurd h (Option.some_ne_none _).symm⟩
  stage := by
    rw [begun.watch]
    exact ⟨List.not_mem_nil, List.not_mem_nil⟩

theorem Untouched.aside (h : Untouched trace) (others : act.isOfSupervisor = false) :
    Untouched (trace ++ [act]) := by
  have notLast (a : Act α) (supervisors : a.isOfSupervisor = true) (not : a ∉ trace) :
      a ∉ trace ++ [act] := by
    rw [List.mem_append, List.mem_singleton]
    rintro (mem | rfl)
    · exact not mem
    · exact absurd (others.symm.trans supervisors) Bool.false_ne_true
  exact ⟨notLast _ rfl h.1, notLast _ rfl h.2⟩

theorem Stopped.aside (h : Stopped own trace s) (made : own < s.scopes.length)
    (aside : Aside own s act s') : Stopped own (trace ++ [act]) s' where
  isCancelled := aside.isCancelled made h.isCancelled
  isShut := aside.isShut.trans h.isShut
  shut := List.mem_append_left _ h.shut

/-- Whatever holds of the supervisor still holds after a step of others. -/
theorem Stage.aside {watch : Watch α} (h : Stage own trace s watch)
    (made : own < s.scopes.length) (aside : Aside own s act s') :
    Stage own (trace ++ [act]) s' watch := by
  cases watch with
  | waiting => exact Untouched.aside h aside.act
  | decided f => exact h.append _
  | cancelled f => exact ⟨h.1.append _, aside.isCancelled made h.2⟩
  | shut f => exact ⟨h.1.append _, h.2.aside made aside⟩
  | raised f => exact ⟨h.1.append _, h.2.1.aside made aside, aside.tasks.ended h.2.2⟩
  | satisfied =>
    obtain ⟨a, succeeded⟩ := h
    exact ⟨a, aside.tasks.succeeded succeeded⟩
  | returned a => exact aside.tasks.succeeded h

/-- Whatever has ended after a step was told. -/
theorem Told.step (told : Told trace s.tasks) (h : Step own s act s') :
    Told (trace ++ [act]) s'.tasks := by
  have kept : Told (trace ++ [act]) s.tasks :=
    ⟨fun r h => List.mem_append_left _ (told.statement r h),
      fun r h => List.mem_append_left _ (told.upload r h)⟩
  cases h with
  | executed r pending =>
    refine ⟨fun r' h => ?_, kept.upload⟩
    obtain rfl := Option.some.inj h
    exact List.mem_append_right _ (List.mem_singleton_self _)
  | uploaded r pending =>
    refine ⟨kept.statement, fun r' h => ?_⟩
    obtain rfl := Option.some.inj h
    exact List.mem_append_right _ (List.mem_singleton_self _)
  | outside | asked | fed | noticed | cancelled | shut | raised | returned => exact kept

/-- A supervisor that wakes up while nothing is cancelled gives up for a failure of a task,
or has seen both succeed. -/
theorem Stage.noticed {seen : Tally α} (told : Told trace s.tasks) (untouched : Untouched trace)
    (happened : seen.Within s.tasks) (woken : seen.failures ≠ [] ∨ seen.Ended) :
    Stage own (trace ++ [.noticed seen]) s seen.verdict := by
  unfold Tally.verdict
  cases cause : firstCause seen.failures with
  | some f =>
    have known := firstCause_mem cause
    refine ⟨trace, seen, [], rfl, untouched, known, ?_, firstCause_isCancellation cause⟩
    exact (mem_failuresOf.mp (happened.failures known)).imp (told.statement _) (told.upload _)
  | none =>
    have none := firstCause_eq_none.mp cause
    obtain ⟨a, succeeded⟩ := (woken.resolve_left fun h => h none).succeeded none
    exact ⟨a, happened.succeeded succeeded⟩

theorem isShut_abort {e : Endpoint} (isOpen : e.isOpen) : e.abort.1.socket.isShut := by
  unfold Endpoint.abort
  rw [if_pos isOpen]

theorem isOpen_abort (e : Endpoint) : e.abort.1.isOpen = e.isOpen := by
  unfold Endpoint.abort
  split <;> rfl

/-- Every step keeps what holds after a run. -/
theorem Sound.step (sound : Sound own trace s) (h : Step own s act s') :
    Sound own (trace ++ [act]) s' := by
  have told := sound.told.step h
  have stage := sound.stage
  cases others : act.isOfSupervisor with
  | false =>
    have aside := h.aside others
    exact ⟨Nat.lt_of_lt_of_le sound.made aside.made, aside.isOpen.trans sound.isOpen, told,
      aside.watch ▸ stage.aside sound.made aside⟩
  | true =>
    cases h with
    | outside | asked | fed | executed | uploaded => nomatch others
    | noticed seen waits happened woken =>
      rw [waits] at stage
      exact ⟨sound.made, sound.isOpen, told, .noticed sound.told stage happened woken⟩
    | cancelled f gave =>
      rw [gave] at stage
      refine ⟨?_, sound.isOpen, told, stage.append _, Scopes.isCancelled_cancel_self _ sound.made⟩
      exact (Scopes.length_cancel own _ s.scopes).symm ▸ sound.made
    | shut f gave =>
      rw [gave] at stage
      refine ⟨sound.made, (isOpen_abort _).trans sound.isOpen, told, stage.1.append _, stage.2, ?_, ?_⟩
      · exact isShut_abort sound.isOpen
      · exact List.mem_append_right _ (List.mem_singleton_self _)
    | raised f gave ended =>
      rw [gave] at stage
      have stopped : Stopped own (trace ++ [.raised]) { s with watch := .raised f } :=
        ⟨stage.2.isCancelled, stage.2.isShut, List.mem_append_left _ stage.2.shut⟩
      exact ⟨sound.made, sound.isOpen, told, stage.1.append _, stopped, ended⟩
    | returned a gave statement =>
      rw [gave] at stage
      obtain ⟨a', succeeded⟩ := stage
      obtain rfl : a' = a := by
        have same := succeeded.1.symm.trans statement
        injection same with same
        injection same
      exact ⟨sound.made, sound.isOpen, told, succeeded⟩

theorem Run.sound (begun : Begun own start) (run : Run own start trace s) : Sound own trace s := by
  induction run with
  | nil => exact begun.sound
  | snoc _ step ih => exact ih.step step

theorem Sound.raised (sound : Sound own trace s) (h : s.watch = .raised f) :
    Origin trace f ∧ Stopped own trace s ∧ s.tasks.Ended := by
  have stage := sound.stage
  rwa [h] at stage

theorem Sound.returned {a : α} (sound : Sound own trace s) (h : s.watch = .returned a) :
    s.tasks.Succeeded a := by
  have stage := sound.stage
  rwa [h] at stage

/-! ### Scopes of others -/

/-- No step of an import cancels a scope that was made before its own. -/
theorem Step.spares {i : ScopeId} (h : Step own s act s') (earlier : i < own) :
    (∃ change, act = .outside change ∧ s'.scopes = change.apply s.scopes) ∨
      s'.scopes.isCancelled i = s.scopes.isCancelled i := by
  cases h with
  | outside change => exact .inl ⟨change, rfl, rfl⟩
  | asked id => exact .inr (Scopes.isCancelled_poll id _)
  | cancelled f gave => exact .inr (Scopes.isCancelled_update_of_lt _ earlier)
  | fed | executed | uploaded | noticed | shut | raised | returned => exact .inr rfl

/-- Someone else cancelled a scope in the course of a run. -/
def CancelledOutside (own : ScopeId) (start : Race α) (i : ScopeId) (trace : List (Act α)) : Prop :=
  ∃ before change after s, trace = before ++ .outside change :: after ∧ Run own start before s ∧
    s.scopes.isCancelled i = false ∧ (change.apply s.scopes).isCancelled i = true

/-- If a scope that was made before that of an import is cancelled, it was when the import
began, or someone else did it. -/
theorem Run.spares {i : ScopeId} (run : Run own start trace s) (earlier : i < own)
    (h : s.scopes.isCancelled i) :
    start.scopes.isCancelled i ∨ CancelledOutside own start i trace := by
  induction run with
  | nil => exact .inl h
  | @snoc trace s s' act run step ih =>
    by_cases before : s.scopes.isCancelled i
    · refine (ih before).imp_right ?_
      rintro ⟨earlier, change, after, s, rfl, rest⟩
      exact ⟨earlier, change, after ++ [act], s, by rw [List.append_assoc, List.cons_append], rest⟩
    · obtain ⟨change, rfl, is⟩ | same := step.spares earlier
      · exact .inr ⟨trace, change, [], s, rfl, run, by simpa using before, is ▸ h⟩
      · exact absurd (same ▸ h) before

/-! ### Getting to the end -/

/-- Steps of others do not add to what the supervisor has to do, and its own make it less. -/
theorem Step.ahead (h : Step own s act s') :
    s'.watch.ahead + (if act.isOfSupervisor then 1 else 0) ≤ s.watch.ahead := by
  cases others : act.isOfSupervisor with
  | false => exact Nat.le_of_eq (congrArg Watch.ahead (h.aside others).watch)
  | true =>
    cases h with
    | outside | asked | fed | executed | uploaded => nomatch others
    | noticed seen waits =>
      rw [waits]
      show seen.verdict.ahead + 1 ≤ 4
      unfold Tally.verdict
      split <;> exact Nat.le_of_ble_eq_true rfl
    | cancelled f gave | shut f gave | raised f gave | returned a gave =>
      rw [gave]
      exact Nat.le_refl _

theorem Run.ahead (run : Run own start trace s) :
    s.watch.ahead + trace.countP Act.isOfSupervisor ≤ start.watch.ahead := by
  induction run with
  | nil => exact Nat.le_refl _
  | snoc run step ih =>
    have less := step.ahead
    rw [List.countP_append, List.countP_singleton]
    omega

/-- As long as a race is not over, the supervisor has a step to take once both tasks have
ended; and before that, once one of them has failed, until the connection is shut down. -/
theorem Sound.moves (sound : Sound own trace s) (goesOn : s.watch.isOver = false)
    (h : s.tasks.Ended ∨ s.tasks.failures ≠ [] ∧ ∀ f, s.watch ≠ .shut f) :
    ∃ act s', act.isOfSupervisor = true ∧ Step own s act s' := by
  have stage := sound.stage
  cases watch : s.watch with
  | waiting =>
    have woken := h.symm.imp_left And.left
    exact ⟨_, _, rfl, .noticed s s.tasks watch (.refl _) woken⟩
  | decided f => exact ⟨_, _, rfl, .cancelled s f watch⟩
  | cancelled f => exact ⟨_, _, rfl, .shut s f watch⟩
  | shut f =>
    have ended := h.resolve_right fun h => h.2 f watch
    exact ⟨_, _, rfl, .raised s f watch ended⟩
  | satisfied =>
    rw [watch] at stage
    obtain ⟨a, succeeded⟩ := stage
    exact ⟨_, _, rfl, .returned s a watch succeeded.1⟩
  | raised f | returned a =>
    rw [watch] at goesOn
    nomatch goesOn

/-! ### What a caller may rely on -/

/-- What a caller may rely on after any steps of a race that began in `start`. -/
structure Joined (own : ScopeId) (start : Race α) (trace : List (Act α)) (s : Race α) : Prop where
  /-- a result is given only if both tasks have succeeded, and is the statement's -/
  returns : ∀ a, s.watch = .returned a → s.tasks.Succeeded a
  /-- if a task has failed, a race that is over has raised a failure -/
  raises : s.tasks.failures ≠ [] → s.watch.isOver → ∃ f, s.watch = .raised f
  /-- a race that is over leaves no task behind -/
  ended : s.watch.isOver → s.tasks.Ended
  /-- the failure is a task's, from before anything was cancelled; a cancellation only if
  nothing else was seen -/
  origin : ∀ f, s.watch = .raised f → Origin trace f
  /-- a failure is raised only when the scope is cancelled and the connection shut down -/
  stopped : ∀ f, s.watch = .raised f → Stopped own trace s
  /-- the scope of the caller, made before that of the import, is cancelled by others only -/
  spared : ∀ i < own, s.scopes.isCancelled i →
    start.scopes.isCancelled i ∨ CancelledOutside own start i trace
  /-- the supervisor takes no more than four steps -/
  brief : trace.countP Act.isOfSupervisor ≤ 4
  /-- until it is over the supervisor can go on once both tasks have ended, and once one
  has failed at least as far as shutting the connection down -/
  moves : s.watch.isOver = false →
    s.tasks.Ended ∨ s.tasks.failures ≠ [] ∧ (∀ f, s.watch ≠ .shut f) →
    ∃ act s', act.isOfSupervisor = true ∧ Step own s act s'

/-- However its steps fall, an import joins its two tasks. -/
theorem run_joins (begun : Begun own start) (run : Run own start trace s) :
    Joined own start trace s := by
  have sound := run.sound begun
  refine ⟨fun a => sound.returned, ?raises, ?ended, fun f h => (sound.raised h).1,
    fun f h => (sound.raised h).2.1, fun i earlier => run.spares earlier, ?brief, sound.moves⟩
  case raises =>
    intro failed ended
    obtain raised | ⟨a, returned⟩ := Watch.isOver_iff.mp ended
    · exact raised
    · exact absurd (sound.returned returned).failures failed
  case ended =>
    intro ended
    obtain ⟨f, raised⟩ | ⟨a, returned⟩ := Watch.isOver_iff.mp ended
    · exact (sound.raised raised).2.2
    · exact (sound.returned returned).ended
  case brief =>
    have bound := run.ahead
    rw [begun.watch] at bound
    exact Nat.le_trans (Nat.le_add_left _ _) bound

/-- The server rejects the statement while the upload goes on, and the upload is cancelled in
consequence: it is the rejection that is raised. -/
theorem rejection_joins : ∃ (trace : List (Act Unit)) (s : Race Unit),
    Run 1 { endpoint := { socket := { host := "exa1" } }, scopes := [{ parent := some 0 }, {}] } trace s ∧
      s.watch = .raised (.sql "42636" "ETL-5105 invalid data") ∧
      s.tasks.upload = some (.error (.cancelled .byCaller)) ∧
      Joined 1 { endpoint := { socket := { host := "exa1" } }, scopes := [{ parent := some 0 }, {}] } trace s := by
  let rejection : Failure := .sql "42636" "ETL-5105 invalid data"
  let start : Race Unit :=
    { endpoint := { socket := { host := "exa1" } }, scopes := [{ parent := some 0 }, {}] }
  have begun : Begun 1 start := ⟨rfl, rfl, rfl, by decide⟩
  have failed : Run 1 start _ _ := .snoc .nil (.executed start (.error rejection) rfl)
  have seen := failed.snoc (.noticed _ { statement := some (.error rejection) } rfl
    ⟨fun _ h => h, fun _ h => nomatch h⟩ (.inl (List.cons_ne_nil _ _)))
  have stopped := (seen.snoc (.cancelled _ rejection rfl)).snoc (.shut _ rejection rfl)
  have ended := stopped.snoc (.uploaded _ (.error (.cancelled .byCaller)) rfl)
  have run := ended.snoc (.raised _ rejection rfl ⟨rfl, rfl⟩)
  exact ⟨_, _, run, rfl, rfl, run_joins begun run⟩

end Race

end ExaWire.Import
