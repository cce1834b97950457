/-
ExaWire/Proofs/Scope/Answers.lean

Scopes are sound, whatever was called on them.

`Sound` puts together what may be relied on after a history: whom a scope says to be
cancelled and why, and that no call takes an answer or a cause back.  Most of it is read off
`Accounted` and `Keeps`.  That asking is silent is the one part about two histories: a poll
makes scopes that are `Alike`, and an event keeps scopes alike (`Alike.next`).
-/
import ExaWire.Proofs.Scope.History

namespace ExaWire.Scopes

open Script (ScopeGiven)

variable {scopes scopes' : Scopes} {event : Event} {events : List Event} {i j k a : ScopeId} {c : Cause}

/-! ### Asking is silent -/

/-- Scopes that differ in nothing but who knows a cause already. -/
structure Alike (scopes scopes' : Scopes) : Prop where
  length : scopes'.length = scopes.length
  parent : ∀ i, parent? i scopes' = parent? i scopes
  deadline : ∀ i, deadline? i scopes' = deadline? i scopes
  isCancelled : ∀ i, scopes'.isCancelled i = scopes.isCancelled i

theorem alike_poll (formed : Formed scopes) (made : k < scopes.length) :
    Alike scopes (scopes.poll k).2 where
  length := length_poll k scopes
  parent _ := parent?_poll formed made
  deadline _ := deadline?_poll formed made
  isCancelled _ := isCancelled_poll k scopes

theorem Alike.symm (h : Alike scopes scopes') : Alike scopes' scopes where
  length := h.length.symm
  parent i := (h.parent i).symm
  deadline i := (h.deadline i).symm
  isCancelled i := (h.isCancelled i).symm

theorem Alike.trans {scopes'' : Scopes} (h : Alike scopes scopes') (h' : Alike scopes' scopes'') :
    Alike scopes scopes'' where
  length := h'.length.trans h.length
  parent i := (h'.parent i).trans (h.parent i)
  deadline i := (h'.deadline i).trans (h.deadline i)
  isCancelled i := (h'.isCancelled i).trans (h.isCancelled i)

theorem Alike.formed (h : Alike scopes scopes') (formed : Formed scopes) : Formed scopes' :=
  fun i p parent => formed i p ((h.parent i).symm.trans parent)

theorem Alike.lawful (h : Alike scopes scopes') (lawful : event.Lawful scopes) : event.Lawful scopes' := by
  cases event with
  | make deadline parent => exact fun p given => Nat.lt_of_lt_of_eq (lawful p given) h.length.symm
  | cancel id _ | isCancelled id | cause id | remaining id =>
    exact Nat.lt_of_lt_of_eq lawful h.length.symm
  | expire id => exact (h.deadline id).trans lawful

/-- Striking one scope cancels the same scopes in forests that are alike. -/
theorem Alike.isCancelled_update {f : Scope → Scope} (h : Alike scopes scopes') (heeds : Scope.Heeds f)
    (strikes : ∀ s, (f s).cause.isSome ∨ (f s).deadline = .passed) (formed : Formed scopes)
    (made : k < scopes.length) (i : ScopeId) :
    (scopes'.update f k).isCancelled i = (scopes.update f k).isCancelled i := by
  have above : Above scopes' k i ↔ Above scopes k i := by
    unfold Above
    simp only [h.parent]
  have made' : k < scopes'.length := Nat.lt_of_lt_of_eq made h.length.symm
  rw [Bool.eq_iff_iff, isCancelled_update_iff heeds strikes (h.formed formed) made',
    isCancelled_update_iff heeds strikes formed made, h.isCancelled, above]

theorem Alike.next (h : Alike scopes scopes') (formed : Formed scopes) (lawful : event.Lawful scopes) :
    Alike (event.next scopes) (event.next scopes') := by
  cases event with
  | make deadline parent =>
    exact
      { length := congrArg (· + 1) h.length
        parent := fun i => by
          rw [Event.next, Event.next, create, create, parent?_cons, parent?_cons, h.length, h.parent]
        deadline := fun i => by
          rw [Event.next, Event.next, create, create, deadline?_cons, deadline?_cons, h.length, h.deadline]
        isCancelled := fun i => by
          have same : (Scopes.isCancelled · scopes') = (Scopes.isCancelled · scopes) := funext h.isCancelled
          rw [Event.next, Event.next, create, create, isCancelled_cons, isCancelled_cons, h.length,
            h.isCancelled, same] }
  | cancel id cause =>
    exact
      { length := by rw [Event.next, Event.next, length_cancel, length_cancel, h.length]
        parent := fun i => by
          rw [Event.next, Event.next, cancel, cancel, parent?_update (Scope.heeds_learn _),
            parent?_update (Scope.heeds_learn _), h.parent]
        deadline := fun i => by
          rw [Event.next, Event.next, deadline?_cancel, deadline?_cancel, h.deadline]
        isCancelled := h.isCancelled_update (Scope.heeds_learn _) (fun s => .inl (s.learn_isSome _))
          formed lawful }
  | isCancelled id =>
    have lawful' : id < scopes'.length := Nat.lt_of_lt_of_eq lawful h.length.symm
    exact ((alike_poll formed lawful).symm.trans h).trans (alike_poll (h.formed formed) lawful')
  | cause id | remaining id => exact h
  | expire id =>
    exact
      { length := by rw [Event.next, Event.next, length_update, length_update, h.length]
        parent := fun i => by
          rw [Event.next, Event.next, parent?_update Scope.heeds_expire,
            parent?_update Scope.heeds_expire, h.parent]
        deadline := fun i => by
          rw [Event.next, Event.next, deadline?_expire, deadline?_expire, h.deadline]
        isCancelled := h.isCancelled_update Scope.heeds_expire (fun _ => .inr rfl) formed
          (lt_of_deadline? lawful) }

/-- Events that are lawful in a forest are so in one that is alike, and leave the two alike. -/
theorem Alike.through (h : Alike scopes scopes') (formed : Formed scopes) (lawful : Lawful scopes events) :
    Lawful scopes' events ∧ Alike (scopes.through events) (scopes'.through events) := by
  induction events generalizing scopes scopes' with
  | nil => exact ⟨trivial, h⟩
  | cons event events ih =>
    obtain ⟨first, rest⟩ := lawful
    obtain ⟨lawful', alike⟩ := ih (h.next formed first) (event.formed_next formed first) rest
    exact ⟨⟨h.lawful first, lawful'⟩, alike⟩

/-! ### Scopes apart -/

/-- A poll gives no cause to a scope that is not above the one that is asked. -/
theorem cause?_poll_of_not_above (formed : Formed scopes) (made : k < scopes.length)
    (apart : ¬ Above scopes i k) : cause? i (scopes.poll k).2 = cause? i scopes := by
  cases knew : cause? i scopes with
  | some c => exact cause?_poll_of_some formed made knew
  | none =>
    refine Option.eq_none_iff_forall_not_mem.2 fun c knows => ?_
    obtain known | ⟨-, above, -⟩ := cause?_poll_cases formed made knows
    · cases knew.symm.trans known
    · exact apart above

/-- To cancel a scope cancels nobody who is not below it. -/
theorem isCancelled_cancel_of_not_above (cause : Option Cause) (formed : Formed scopes)
    (made : k < scopes.length) (apart : ¬ Above scopes k i) :
    (scopes.cancel k cause).isCancelled i = scopes.isCancelled i := by
  rw [Bool.eq_iff_iff, cancel, isCancelled_update_iff (Scope.heeds_learn _)
    (fun s => .inl (s.learn_isSome _)) formed made, or_iff_left apart]

/-! ### Soundness -/

/-- What may be relied on in scopes to which events led. -/
structure Sound (events : List Event) (scopes : Scopes) : Prop where
  /-- A scope says that it is cancelled if it or an ancestor was cancelled or is late. -/
  answer : ∀ i, (Event.isCancelled i).answer scopes = .flag true ↔
    ∃ a, Above scopes a i ∧ (Told events a ∨ Late a scopes)
  /-- It goes on saying so. -/
  stays : ∀ later i, Lawful scopes later → i < scopes.length →
    (Event.isCancelled i).answer scopes = .flag true →
    (Event.isCancelled i).answer (scopes.through later) = .flag true
  /-- To ask changes nothing that anyone is answered later. -/
  silent : ∀ k later i, Lawful scopes later → k < scopes.length →
    Lawful ((Event.isCancelled k).next scopes) later ∧
    (Event.isCancelled i).answer (((Event.isCancelled k).next scopes).through later) =
      (Event.isCancelled i).answer (scopes.through later)
  /-- To ask or to cancel a scope is nothing to a scope that is neither above nor below it. -/
  apart : ∀ k i (event : Event), event = .isCancelled k ∨ (∃ cause, event = .cancel k cause) → k < scopes.length →
    ¬ Above scopes i k → ¬ Above scopes k i → cause? i (event.next scopes) = cause? i scopes ∧
      (Event.isCancelled i).answer (event.next scopes) = (Event.isCancelled i).answer scopes
  /-- To cancel a scope is nothing to its ancestors. -/
  ancestors : ∀ k cause a, Above scopes a k → a ≠ k →
    get? a ((Event.cancel k cause).next scopes) = get? a scopes ∧
      (Event.isCancelled a).answer ((Event.cancel k cause).next scopes) =
        (Event.isCancelled a).answer scopes
  /-- A cause stays what it is. -/
  causes : ∀ later i c, Lawful scopes later → cause? i scopes = some c →
    cause? i (scopes.through later) = some c
  /-- A scope that said that it is cancelled gives the cause that it had learned by then. -/
  explained : ∀ earlier i later, events = earlier ++ .isCancelled i :: later →
    (Event.isCancelled i).answer (through [] earlier) = .flag true →
    ∃ c, (Event.cause i).answer scopes = .cause c ∧ Latched (earlier ++ [.isCancelled i]) i c
  /-- Every cause was learned once, for a reason. -/
  latched : ∀ i c, cause? i scopes = some c → Latched events i c

theorem flag_inj {b b' : Bool} : ScopeGiven.flag b = .flag b' ↔ b = b' :=
  ⟨fun h => by cases h; rfl, congrArg _⟩

/-- Scopes are sound after every history. -/
theorem history_sound (lawful : Lawful [] events) : Sound events (through [] events) := by
  have accounts := accounted lawful
  have formed := accounts.formed
  exact
    { answer := fun i => flag_inj.trans accounts.isCancelled_iff
      stays := fun later i lawful made yes => by
        have keeps := keeps_through formed lawful
        exact flag_inj.2 (keeps.isCancelled formed (formed_through formed lawful) made (flag_inj.1 yes))
      silent := fun k later i lawful made => by
        obtain ⟨lawful', alike⟩ := (alike_poll formed made).through formed lawful
        exact ⟨lawful', flag_inj.2 (alike.isCancelled i)⟩
      apart := fun k i event call made notAbove notBelow => by
        obtain rfl | ⟨cause, rfl⟩ := call
        · exact ⟨cause?_poll_of_not_above formed made notAbove, flag_inj.2 (isCancelled_poll k _)⟩
        · have other : i ≠ k := fun same => notAbove (same ▸ Above.refl _ _)
          exact ⟨cause?_update_of_ne _ other,
            flag_inj.2 (isCancelled_cancel_of_not_above cause formed made notBelow)⟩
      ancestors := fun k cause a above other => by
        have older : a < k := Nat.lt_of_le_of_ne (above.le formed) other
        exact ⟨by rw [Event.next, cancel, get?_update, if_neg other],
          flag_inj.2 (isCancelled_update_of_lt _ older)⟩
      causes := fun later i c lawful knows => (keeps_through formed lawful).cause i c knows
      explained := fun earlier i later cut yes => by
        subst cut
        obtain ⟨before, ask, after⟩ := lawful_append.1 lawful
        obtain ⟨c, told⟩ := Option.isSome_iff_exists.1 (flag_inj.1 yes)
        have knows := cause?_poll told
        have formedThen := (Event.isCancelled i).formed_next (formed_through formed_nil before) ask
        have still : cause? i (through [] (earlier ++ .isCancelled i :: later)) = some c := by
          rw [through_append]
          exact (keeps_through formedThen after).cause i c knows
        have asked : Lawful [] (earlier ++ [.isCancelled i]) := lawful_append.2 ⟨before, ask, trivial⟩
        refine ⟨c, by rw [Event.answer, still]; rfl, (accounted asked).latched i c ?_⟩
        rwa [through_append]
      latched := accounts.latched }

/-- A scope that is asked after its parent was cancelled has its cause from it, although its own
deadline passes later. -/
theorem inherited_cause_stays :
    let events : List Event :=
      [.make .none none, .make .ahead (some 0), .cancel 0 none, .isCancelled 1, .expire 1, .isCancelled 1]
    Lawful [] events ∧ Sound events (through [] events) ∧
      (Event.cause 1).answer (through [] events) = .cause .byCaller := by
  intro events
  have lawful : Lawful [] events := by
    refine ⟨nofun, fun p given => ?_, Nat.two_pos, Nat.one_lt_two, rfl, Nat.one_lt_two, trivial⟩
    obtain rfl := Option.some.inj given
    exact Nat.one_pos
  exact ⟨lawful, history_sound lawful, rfl⟩

end ExaWire.Scopes
