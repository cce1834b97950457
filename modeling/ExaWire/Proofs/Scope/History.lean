/-
ExaWire/Proofs/Scope/History.lean

What scopes answer after any history of calls.

An event is a call on scopes, or a deadline that passes.  `Event.keeps` says what every event
leaves, and `Event.cause?_cases` where a cause can come from.  By induction over the events,
every scope that knows a cause was told it, was late when it was asked, or has it from its
parent (`Latched`), and somebody above it was cancelled or is late (`Accounted`).

That a poll changes no answer follows from comparing two courses of the same events from
forests that are `Alike`, that is, may only differ in who knows a cause already.
-/
import ExaWire.Proofs.Scope.Polling
import ExaWire.Script.Named
import Mathlib.Data.List.Induction

namespace ExaWire.Scopes

open Script (ScopeGiven)

/-- A call on scopes, or the passing of a deadline between two calls. -/
inductive Event
  | make (deadline : Deadline) (parent : Option ScopeId)
  | cancel (id : ScopeId) (cause : Option Cause)
  | isCancelled (id : ScopeId)
  | cause (id : ScopeId)
  | remaining (id : ScopeId)
  | expire (id : ScopeId)

/-- The scopes after an event. -/
def Event.next (scopes : Scopes) : Event → Scopes
  | .make deadline parent => (scopes.create deadline parent).2
  | .cancel id given => scopes.cancel id given
  | .isCancelled id => (scopes.poll id).2
  | .cause _ | .remaining _ => scopes
  | .expire id => scopes.update Scope.expire id

/-- What a call gives. -/
def Event.answer (scopes : Scopes) : Event → ScopeGiven
  | .isCancelled id => .flag (scopes.poll id).1.isSome
  | .cause id => ((scopes.cause? id).map .cause).getD .nothing
  | .remaining id => .deadline ((deadline? id scopes).getD .none)
  | .make _ _ | .cancel _ _ | .expire _ => .nothing

/-- Calls are made on scopes that were made, and a deadline passes that is ahead. -/
def Event.Lawful (scopes : Scopes) : Event → Prop
  | .make _ parent => ∀ p, parent = some p → p < scopes.length
  | .cancel id _ | .isCancelled id | .cause id | .remaining id => id < scopes.length
  | .expire id => deadline? id scopes = some .ahead

/-- The scopes after events. -/
def through (scopes : Scopes) (events : List Event) : Scopes := events.foldl Event.next scopes

/-- Every event is lawful where it happens. -/
def Lawful (scopes : Scopes) : List Event → Prop
  | [] => True
  | event :: events => event.Lawful scopes ∧ Lawful (event.next scopes) events

theorem through_append (scopes : Scopes) (xs ys : List Event) :
    scopes.through (xs ++ ys) = (scopes.through xs).through ys := List.foldl_append

theorem lawful_append {scopes : Scopes} {xs ys : List Event} :
    Lawful scopes (xs ++ ys) ↔ Lawful scopes xs ∧ Lawful (scopes.through xs) ys := by
  induction xs generalizing scopes with
  | nil => exact (and_iff_right trivial).symm
  | cons x xs ih =>
    show _ ∧ Lawful _ (xs ++ ys) ↔ (_ ∧ _) ∧ Lawful ((x.next scopes).through xs) ys
    rw [ih, and_assoc]

variable {scopes scopes' : Scopes} {event : Event} {events : List Event} {i j k : ScopeId} {c : Cause}

/-! ### What an event does -/

theorem deadline?_update (f : Scope → Scope) (k : ScopeId) (scopes : Scopes) :
    deadline? i (scopes.update f k) =
      if i = k then (get? i scopes).map fun s => (f s).deadline else deadline? i scopes := by
  unfold deadline?
  rw [get?_update]
  split
  · rw [Option.map_map]
    rfl
  · rfl

theorem deadline?_cancel (cause : Option Cause) :
    deadline? i (scopes.cancel k cause) = deadline? i scopes := by
  rw [cancel, deadline?_update]
  split <;> rfl

theorem deadline?_expire : deadline? i (scopes.update Scope.expire k) =
    if i = k then (deadline? i scopes).map fun _ => .passed else deadline? i scopes := by
  rw [deadline?_update]
  unfold deadline?
  rw [Option.map_map]
  rfl

theorem cause?_expire : cause? i (scopes.update Scope.expire k) = cause? i scopes := by
  unfold cause?
  rw [get?_update]
  split
  · cases get? i scopes <;> rfl
  · rfl

theorem cause?_cancel (cause : Option Cause) (made : k < scopes.length) :
    cause? i (scopes.cancel k cause) =
      if i = k then (cause? i scopes).or (some (cause.getD .byCaller)) else cause? i scopes := by
  unfold cancel
  by_cases same : i = k
  · obtain ⟨s, known⟩ := exists_get? (same ▸ made : i < scopes.length)
    rw [if_pos same, cause?, cause?, get?_update, if_pos same, known]
    cases h : s.cause <;> simp [Scope.learn, h]
  · rw [if_neg same, cause?_update_of_ne _ same]

/-- What an event leaves as it is: the scopes that were made, their parents, that a deadline has
passed, and the causes. -/
structure Keeps (scopes scopes' : Scopes) : Prop where
  length : scopes.length ≤ scopes'.length
  parent : ∀ j < scopes.length, parent? j scopes' = parent? j scopes
  late : ∀ j, Late j scopes → Late j scopes'
  cause : ∀ j c, cause? j scopes = some c → cause? j scopes' = some c

theorem Keeps.refl (scopes : Scopes) : Keeps scopes scopes :=
  ⟨Nat.le_refl _, fun _ _ => rfl, fun _ h => h, fun _ _ h => h⟩

theorem Keeps.trans {scopes'' : Scopes} (h : Keeps scopes scopes') (h' : Keeps scopes' scopes'') :
    Keeps scopes scopes'' where
  length := Nat.le_trans h.length h'.length
  parent j made := (h'.parent j (Nat.lt_of_lt_of_le made h.length)).trans (h.parent j made)
  late j late := h'.late j (h.late j late)
  cause j c knows := h'.cause j c (h.cause j c knows)

theorem Event.formed_next (formed : Formed scopes) (lawful : event.Lawful scopes) :
    Formed (event.next scopes) := by
  cases event with
  | make deadline parent => exact formed_cons.2 ⟨formed, lawful⟩
  | cancel id cause => exact formed_update (Scope.heeds_learn _) id formed
  | isCancelled id => exact formed_poll formed lawful
  | cause id | remaining id => exact formed
  | expire id => exact formed_update Scope.heeds_expire id formed

theorem Event.keeps (formed : Formed scopes) (lawful : event.Lawful scopes) :
    Keeps scopes (event.next scopes) := by
  cases event with
  | make deadline parent =>
    have earlier : ∀ j < scopes.length, j ≠ scopes.length := fun j made => Nat.ne_of_lt made
    exact
      { length := Nat.le_succ _
        parent := fun j made => by rw [next, create, parent?_cons, if_neg (earlier j made)]
        late := fun j late => by
          have made := lt_of_deadline? late
          rwa [Late, next, create, deadline?_cons, if_neg (earlier j made)]
        cause := fun j c knows => by
          have made := lt_of_cause? knows
          rwa [next, create, cause?_cons, if_neg (earlier j made)] }
  | cancel id cause =>
    exact
      { length := Nat.le_of_eq (length_cancel id cause scopes).symm
        parent := fun j _ => parent?_update (Scope.heeds_learn _) id
        late := fun j late => (deadline?_cancel cause).trans late
        cause := fun j c knows => by
          rw [next, cause?_cancel cause lawful, knows]
          exact ite_self _ }
  | isCancelled id =>
    exact
      { length := Nat.le_of_eq (length_poll id scopes).symm
        parent := fun j _ => parent?_poll formed lawful
        late := fun j late => (deadline?_poll formed lawful).trans late
        cause := fun j c knows => cause?_poll_of_some formed lawful knows }
  | cause id | remaining id => exact Keeps.refl _
  | expire id =>
    exact
      { length := Nat.le_of_eq (length_update _ id scopes).symm
        parent := fun j _ => parent?_update Scope.heeds_expire id
        late := fun j late => by
          rw [Late, next, deadline?_expire, late]
          exact ite_self _
        cause := fun j c knows => cause?_expire.trans knows }

/-- Who is cancelled stays so. -/
theorem Keeps.isCancelled (h : Keeps scopes scopes') (formed : Formed scopes) (formed' : Formed scopes')
    (made : i < scopes.length) (cancelled : scopes.isCancelled i) : scopes'.isCancelled i := by
  obtain ⟨a, above, struck⟩ := (isCancelled_iff_above formed).1 cancelled
  refine (isCancelled_iff_above formed').2 ⟨a, above.mono formed made h.parent, ?_⟩
  refine struck.imp (fun knows => ?_) (h.late a)
  obtain ⟨c, knows⟩ := Option.isSome_iff_exists.1 knows
  rw [h.cause a c knows]
  rfl

/-- Why a scope learns a cause at an event: it is told, it is late when it or a scope below it is
asked, or it then has the cause from its parent. -/
inductive Reason (scopes : Scopes) (event : Event) (i : ScopeId) : Cause → Prop
  | told {cause : Option Cause} : event = .cancel i cause → Reason scopes event i (cause.getD .byCaller)
  | late {k : ScopeId} : event = .isCancelled k → Above scopes i k → Late i scopes →
      Reason scopes event i .deadline
  | inherited {k p : ScopeId} {c : Cause} : event = .isCancelled k → Above scopes i k →
      ¬ Late i scopes → parent? i scopes = some p → cause? p (event.next scopes) = some c →
      Reason scopes event i c

/-- A scope that knows a cause after an event knew it before, or learned it then. -/
theorem Event.cause?_cases (formed : Formed scopes) (lawful : event.Lawful scopes)
    (h : cause? i (event.next scopes) = some c) :
    cause? i scopes = some c ∨ cause? i scopes = none ∧ Reason scopes event i c := by
  cases event with
  | make deadline parent =>
    rw [next, create, cause?_cons] at h
    split at h
    · cases h
    · exact .inl h
  | cancel id cause =>
    rw [next, cause?_cancel cause lawful] at h
    split at h
    · next same =>
      cases knew : cause? i scopes with
      | none =>
        rw [knew] at h
        obtain rfl := Option.some.inj h
        exact .inr ⟨rfl, .told (by rw [same])⟩
      | some c' =>
        rw [knew] at h
        exact .inl h
    · exact .inl h
  | isCancelled id =>
    obtain knew | ⟨unknown, above, ⟨late, rfl⟩ | ⟨inTime, p, parent, knows⟩⟩ :=
      cause?_poll_cases formed lawful h
    · exact .inl knew
    · exact .inr ⟨unknown, .late rfl above late⟩
    · exact .inr ⟨unknown, .inherited rfl above inTime parent knows⟩
  | cause id | remaining id => exact .inl h
  | expire id => exact .inl (cause?_expire.symm.trans h)

/-! ### Histories -/

theorem formed_through (formed : Formed scopes) (lawful : Lawful scopes events) :
    Formed (scopes.through events) := by
  induction events generalizing scopes with
  | nil => exact formed
  | cons event events ih => exact ih (event.formed_next formed lawful.1) lawful.2

/-- What every event keeps a whole history does. -/
theorem keeps_through (formed : Formed scopes) (lawful : Lawful scopes events) :
    Keeps scopes (scopes.through events) := by
  induction events generalizing scopes with
  | nil => exact Keeps.refl _
  | cons event events ih =>
    exact (event.keeps formed lawful.1).trans (ih (event.formed_next formed lawful.1) lawful.2)

/-- The scope `i` learned the cause `c` at one of the events, for a reason, and knew none before. -/
def Latched (events : List Event) (i : ScopeId) (c : Cause) : Prop :=
  ∃ earlier event later, events = earlier ++ event :: later ∧
    cause? i (through [] earlier) = none ∧ Reason (through [] earlier) event i c ∧
    cause? i (through [] (earlier ++ [event])) = some c

/-- The scope was cancelled at one of the events. -/
def Told (events : List Event) (i : ScopeId) : Prop := ∃ cause, .cancel i cause ∈ events

/-- What holds of scopes and the events that led to them. -/
structure Accounted (events : List Event) (scopes : Scopes) : Prop where
  formed : Formed scopes
  told : ∀ i, Told events i → (cause? i scopes).isSome
  founded : ∀ i c, cause? i scopes = some c → ∃ a, Above scopes a i ∧ (Told events a ∨ Late a scopes)
  latched : ∀ i c, cause? i scopes = some c → Latched events i c

theorem Latched.append {later : List Event} (h : Latched events i c) : Latched (events ++ later) i c := by
  obtain ⟨earlier, event, rest, rfl, unknown, reason, known⟩ := h
  exact ⟨earlier, event, rest ++ later, by simp, unknown, reason, known⟩

theorem Told.append {later : List Event} (h : Told events i) : Told (events ++ later) i := by
  obtain ⟨cause, told⟩ := h
  exact ⟨cause, List.mem_append_left _ told⟩

/-- A scope that was just told knows a cause. -/
theorem cause?_of_cancel {cause : Option Cause} (made : i < scopes.length) :
    (cause? i (scopes.cancel i cause)).isSome := by
  rw [cause?_cancel cause made, if_pos rfl]
  cases cause? i scopes <;> rfl

/-- Who is cancelled in accounted scopes has somebody above that was cancelled or is late. -/
theorem Accounted.isCancelled_iff (h : Accounted events scopes) :
    scopes.isCancelled i ↔ ∃ a, Above scopes a i ∧ (Told events a ∨ Late a scopes) := by
  rw [isCancelled_iff_above h.formed]
  constructor
  · rintro ⟨a, above, knows | late⟩
    · obtain ⟨c, knows⟩ := Option.isSome_iff_exists.1 knows
      obtain ⟨b, higher, reason⟩ := h.founded a c knows
      exact ⟨b, above.trans higher, reason⟩
    · exact ⟨a, above, .inr late⟩
  · rintro ⟨a, above, reason⟩
    exact ⟨a, above, reason.imp_left (h.told a)⟩

theorem Accounted.next (h : Accounted events scopes) (reached : through [] events = scopes)
    (lawful : event.Lawful scopes) : Accounted (events ++ [event]) (event.next scopes) := by
  have keeps := event.keeps h.formed lawful
  -- who was cancelled before the event still has somebody above that accounts for it
  have founded : ∀ i, i < scopes.length → scopes.isCancelled i →
      ∃ a, Above (event.next scopes) a i ∧ (Told (events ++ [event]) a ∨ Late a (event.next scopes)) := by
    intro i made cancelled
    obtain ⟨a, above, reason⟩ := h.isCancelled_iff.1 cancelled
    exact ⟨a, above.mono h.formed made keeps.parent, reason.imp Told.append (keeps.late a)⟩
  refine
    { formed := event.formed_next h.formed lawful
      told := ?_
      founded := fun i c known => ?_
      latched := fun i c known => ?_ }
  · rintro i ⟨cause, told⟩
    obtain told | told := List.mem_append.1 told
    · obtain ⟨c, known⟩ := Option.isSome_iff_exists.1 (h.told i ⟨cause, told⟩)
      exact Option.isSome_iff_exists.2 ⟨c, keeps.cause i c known⟩
    · obtain rfl := List.mem_singleton.1 told
      exact cause?_of_cancel lawful
  · obtain knew | ⟨-, reason⟩ := event.cause?_cases h.formed lawful known
    · exact founded i (lt_of_cause? knew) (isCancelled_of_cause? h.formed knew)
    · cases reason with
      | @told cause same =>
        exact ⟨i, Above.refl _ _, .inl ⟨cause, List.mem_append_right _ (List.mem_singleton.2 same.symm)⟩⟩
      | late _ _ late => exact ⟨i, Above.refl _ _, .inr (keeps.late i late)⟩
      | @inherited k p _ same _ _ parent _ =>
        subst same
        have cancelled := isCancelled_of_cause? (formed_poll h.formed lawful) known
        exact founded i (lt_of_parent? parent) ((isCancelled_poll k scopes).symm.trans cancelled)
  · obtain knew | ⟨unknown, reason⟩ := event.cause?_cases h.formed lawful known
    · exact (h.latched i c knew).append
    · subst reached
      exact ⟨events, event, [], rfl, unknown, reason, by rwa [through_append]⟩

theorem accounted (lawful : Lawful [] events) : Accounted events (through [] events) := by
  induction events using List.reverseRecOn with
  | nil =>
    exact
      { formed := formed_nil
        told := fun i ⟨_, told⟩ => by cases told
        founded := fun i c known => by cases known
        latched := fun i c known => by cases known }
  | append_singleton events event ih =>
    obtain ⟨lawful, last⟩ := lawful_append.1 lawful
    rw [through_append]
    exact (ih lawful).next rfl last.1

end ExaWire.Scopes
