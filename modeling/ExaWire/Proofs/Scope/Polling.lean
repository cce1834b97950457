/-
ExaWire/Proofs/Scope/Polling.lean

What a poll writes down.

A poll changes nothing but causes, takes none back, and gives one to nobody but the scope
that is asked and those above it.  What a scope learns is that its own deadline has passed
or, if it has not, what its parent knows by then (`Learns`).
-/
import ExaWire.Proofs.Scope.Ancestry

namespace ExaWire.Scopes

variable {scopes after : Scopes} {i j p : ScopeId} {s : Scope} {c : Cause}

/-- What becomes of the newest scope and the others when it is asked. -/
inductive Polled (s : Scope) (older : Scopes) : Option Cause × Scopes → Prop
  | settled : Polled s older (s.cause, s :: older)
  | late : s.cause = none → s.deadline = .passed →
      Polled s older (some .deadline, { s with cause := some .deadline } :: older)
  | asks {p : ScopeId} : s.cause = none → s.deadline ≠ .passed → s.parent = some p →
      Polled s older ((poll p older).1, { s with cause := (poll p older).1 } :: (poll p older).2)

theorem polled (s : Scope) (older : Scopes) : Polled s older (poll older.length (s :: older)) := by
  rw [poll, if_pos rfl]
  rcases s with ⟨deadline, parent, _ | cause⟩
  · rcases deadline with _ | _ | _ <;> rcases parent with _ | parent
    case passed.none | passed.some => exact .late rfl rfl
    case none.none | ahead.none => exact .settled
    case none.some | ahead.some => exact .asks rfl (fun h => by cases h) rfl
  · exact .settled

theorem poll_cons_of_ne {older : Scopes} (h : i ≠ older.length) :
    poll i (s :: older) = ((poll i older).1, s :: (poll i older).2) := by
  rw [poll, if_neg h]

/-- The cause of the scope `j`, which was `s`, when the scope `i` has been asked. -/
inductive Learns (scopes after : Scopes) (i j : ScopeId) (s : Scope) : Option Cause → Prop
  | kept : Learns scopes after i j s s.cause
  | late : s.cause = none → s.deadline = .passed → Above scopes j i →
      Learns scopes after i j s (some .deadline)
  | inherited {p : ScopeId} {c : Cause} : s.cause = none → s.deadline ≠ .passed → s.parent = some p →
      cause? p after = some c → Above scopes j i → Learns scopes after i j s (some c)

/-- What was learned among older scopes was learned. -/
theorem Learns.cons {t t' : Scope} {older older' : Scopes} {k : ScopeId} {cause : Option Cause}
    (h : Learns older older' k j s cause) (formed : Formed older) (made : k < older.length)
    (above : Above (t :: older) k i) : Learns (t :: older) (t' :: older') i j s cause := by
  have asOlder : Above older j k → Above (t :: older) j i := fun path =>
    above.trans (path.mono formed made fun m hm => by rw [parent?_cons, if_neg (Nat.ne_of_lt hm)])
  cases h with
  | kept => exact .kept
  | late unknown late path => exact .late unknown late (asOlder path)
  | inherited unknown inTime parent knows path =>
    refine .inherited unknown inTime parent ?_ (asOlder path)
    rwa [cause?_cons, if_neg (Nat.ne_of_lt (lt_of_cause? knows))]

/-- A poll changes nothing of a scope but its cause. -/
theorem get?_poll (formed : Formed scopes) (made : i < scopes.length) (known : get? j scopes = some s) :
    ∃ cause, get? j (scopes.poll i).2 = some { s with cause } ∧
      Learns scopes (scopes.poll i).2 i j s cause := by
  induction scopes generalizing i with
  | nil => cases known
  | cons t older ih =>
    obtain ⟨formedOlder, newest⟩ := formed_cons.1 formed
    rw [get?_cons] at known
    by_cases asked : i = older.length
    · subst asked
      have outcome := polled t older
      generalize poll older.length (t :: older) = result at outcome ⊢
      by_cases top : j = older.length
      · rw [if_pos top] at known
        obtain rfl := Option.some.inj known
        subst top
        cases outcome with
        | settled => exact ⟨t.cause, if_pos rfl, .kept⟩
        | late unknown late => exact ⟨_, if_pos rfl, .late unknown late (Above.refl _ _)⟩
        | @asks p unknown inTime parent =>
          refine ⟨_, by rw [get?_cons, length_poll, if_pos rfl], ?_⟩
          cases told : (poll p older).1 with
          | none =>
            rw [← unknown]
            exact .kept
          | some c =>
            refine .inherited unknown inTime parent ?_ (Above.refl _ _)
            rw [cause?_cons, length_poll, if_neg (Nat.ne_of_lt (newest p parent))]
            exact cause?_poll told
      · rw [if_neg top] at known
        cases outcome with
        | settled => exact ⟨s.cause, by rw [get?_cons, if_neg top, known], .kept⟩
        | late unknown late => exact ⟨s.cause, by rw [get?_cons, if_neg top, known], .kept⟩
        | @asks p unknown inTime parent =>
          -- the scopes above the parent are above the one that was asked
          obtain ⟨cause, knows, learns⟩ := ih formedOlder (newest p parent) known
          have above : Above (t :: older) p older.length :=
            (Above.refl _ p).of_parent (by rw [parent?_cons, if_pos rfl, parent])
          exact ⟨cause, by rw [get?_cons, length_poll, if_neg top, knows],
            learns.cons formedOlder (newest p parent) above⟩
    · rw [poll_cons_of_ne asked]
      have madeOlder : i < older.length := Nat.lt_of_le_of_ne (Nat.le_of_lt_succ made) asked
      by_cases top : j = older.length
      · rw [if_pos top] at known
        obtain rfl := Option.some.inj known
        exact ⟨t.cause, by rw [get?_cons, length_poll, if_pos top], .kept⟩
      · rw [if_neg top] at known
        obtain ⟨cause, knows, learns⟩ := ih formedOlder madeOlder known
        exact ⟨cause, by rw [get?_cons, length_poll, if_neg top, knows],
          learns.cons formedOlder madeOlder (Above.refl _ _)⟩

/-! ### The forest after a poll -/

/-- What a poll leaves of a scope that it leaves of every scope's parent and deadline. -/
theorem get?_poll_map (formed : Formed scopes) (made : i < scopes.length) {β : Type} (g : Scope → β)
    (blind : ∀ (s : Scope) (cause : Option Cause), g { s with cause } = g s) :
    (get? j (scopes.poll i).2).map g = (get? j scopes).map g := by
  cases known : get? j scopes with
  | none => rw [get?_eq_none_iff.2 (by rw [length_poll]; exact get?_eq_none_iff.1 known)]
  | some s =>
    obtain ⟨cause, knows, -⟩ := get?_poll formed made known
    rw [knows, Option.map_some, Option.map_some, blind]

theorem deadline?_poll (formed : Formed scopes) (made : i < scopes.length) :
    deadline? j (scopes.poll i).2 = deadline? j scopes :=
  get?_poll_map formed made _ fun _ _ => rfl

theorem parent?_poll (formed : Formed scopes) (made : i < scopes.length) :
    parent? j (scopes.poll i).2 = parent? j scopes := by
  have same := congrArg (Option.bind · id) (get?_poll_map (j := j) formed made (·.parent) fun _ _ => rfl)
  simp only [Option.bind_map] at same
  exact same

theorem formed_poll (formed : Formed scopes) (made : i < scopes.length) :
    Formed (scopes.poll i).2 := fun j p h => formed j p (by rwa [parent?_poll formed made] at h)

/-! ### Causes after a poll -/

theorem cause?_poll_of_some (formed : Formed scopes) (made : i < scopes.length)
    (h : cause? j scopes = some c) : cause? j (scopes.poll i).2 = some c := by
  obtain ⟨s, known, knew⟩ := Option.bind_eq_some_iff.1 h
  obtain ⟨cause, knows, learns⟩ := get?_poll formed made known
  unfold cause?
  rw [knows]
  cases learns with
  | kept => exact knew
  | late unknown _ _ => cases unknown.symm.trans knew
  | inherited unknown _ _ _ _ => cases unknown.symm.trans knew

/-- Whoever knows a cause after a poll knew it before, or learned it as a scope above the one that
was asked: that it is late or, if it is not, what its parent knows. -/
theorem cause?_poll_cases (formed : Formed scopes) (made : i < scopes.length)
    (h : cause? j (scopes.poll i).2 = some c) : cause? j scopes = some c ∨
      cause? j scopes = none ∧ Above scopes j i ∧ (Late j scopes ∧ c = .deadline ∨
        ¬ Late j scopes ∧ ∃ p, parent? j scopes = some p ∧ cause? p (scopes.poll i).2 = some c) := by
  have madeToo : j < scopes.length := by
    rw [← length_poll i scopes]
    exact lt_of_cause? h
  obtain ⟨s, known⟩ := exists_get? madeToo
  obtain ⟨cause, found, learns⟩ := get?_poll formed made known
  have same : cause? j (scopes.poll i).2 = cause := by rw [cause?, found]; rfl
  have before : cause? j scopes = s.cause := by rw [cause?, known]; rfl
  have late : Late j scopes ↔ s.deadline = .passed := by
    rw [Late, deadline?, known, Option.map_some, Option.some_inj]
  rw [same] at h
  rw [before]
  cases learns with
  | kept => exact .inl h
  | late unknown passed above =>
    exact .inr ⟨unknown, above, .inl ⟨late.2 passed, (Option.some.inj h).symm⟩⟩
  | @inherited p c' unknown inTime parent knows above =>
    obtain rfl := Option.some.inj h
    have ofParent : parent? j scopes = some p := by rw [parent?, known]; exact parent
    exact .inr ⟨unknown, above, .inr ⟨fun h => inTime (late.1 h), p, ofParent, knows⟩⟩

end ExaWire.Scopes
