/-
ExaWire/Proofs/Scope.lean

When a scope is cancelled.  To be cancelled is what a poll would tell, and
`isCancelled_cons` says what that depends on: the scope's own cause, its deadline, and
its parent.

A poll writes down what it learns, but changes nothing about who is cancelled.  Changing
a scope matters to none that was made before it, because parents stand further down the
list; and a change that takes neither a cause nor a passed deadline back leaves everyone
cancelled who was.
-/
import ExaWire.Scope

namespace ExaWire

/-- A change of a scope that leaves its parent as it is and takes back neither its cause
nor the passing of its deadline. -/
structure Scope.Heeds (f : Scope → Scope) : Prop where
  parent : ∀ s, (f s).parent = s.parent
  cause : ∀ s, s.cause.isSome → (f s).cause.isSome
  deadline : ∀ s, s.deadline = .passed → (f s).deadline = .passed

theorem Scope.learn_isSome (c : Cause) (s : Scope) : (s.learn c).cause.isSome := by
  unfold Scope.learn
  cases s.cause <;> rfl

theorem Scope.heeds_learn (c : Cause) : Heeds (Scope.learn c) where
  parent _ := rfl
  cause s _ := s.learn_isSome c
  deadline _ h := h

/-- The change of a scope when its deadline passes. -/
def Scope.expire (s : Scope) : Scope := { s with deadline := .passed }

theorem Scope.heeds_expire : Heeds Scope.expire where
  parent _ := rfl
  cause _ h := h
  deadline _ _ := rfl

namespace Scopes

variable {i k : ScopeId} {scopes : Scopes}

/-- Whether a scope is cancelled, as a poll would tell. -/
def isCancelled (id : ScopeId) (scopes : Scopes) : Bool := (scopes.poll id).1.isSome

/-- A scope is cancelled if it knows a cause, if its deadline has passed, or if its parent
is cancelled. -/
theorem isCancelled_cons (s : Scope) (older : Scopes) : isCancelled i (s :: older) =
    if i = older.length then
      s.cause.isSome || decide (s.deadline = .passed) || s.parent.any (isCancelled · older)
    else isCancelled i older := by
  unfold isCancelled
  rw [poll]
  split
  · rcases s with ⟨deadline, parent, cause⟩
    cases cause <;> cases deadline <;> cases parent <;> rfl
  · rfl

/-! ### Polling -/

@[simp] theorem length_poll (id : ScopeId) (scopes : Scopes) :
    (scopes.poll id).2.length = scopes.length := by
  induction scopes generalizing id with
  | nil => rfl
  | cons s older ih =>
    rw [poll]
    split
    · split <;> simp [ih]
    · simp [ih]

/-- Asking a scope changes nothing about which scopes are cancelled. -/
theorem isCancelled_poll (id : ScopeId) (scopes : Scopes) :
    isCancelled i (scopes.poll id).2 = isCancelled i scopes := by
  induction scopes generalizing i id with
  | nil => rfl
  | cons s older ih =>
    rw [poll]
    split
    · -- the scope that is asked writes down what it was told; a poll would tell the same again
      rcases s with ⟨deadline, parent, _ | cause⟩
      · rcases deadline with _ | _ | _ <;> rcases parent with _ | parent <;>
          simp only [isCancelled_cons, length_poll, ih] <;>
          simp [isCancelled]
      · rfl
    · simp only [isCancelled_cons, length_poll, ih]

theorem cause?_cons (s : Scope) (older : Scopes) :
    cause? i (s :: older) = if i = older.length then s.cause else cause? i older := by
  unfold cause?
  rw [get?]
  split <;> rfl

/-- What a scope tells it knows from then on. -/
theorem cause?_poll {cause : Cause} (h : (scopes.poll i).1 = some cause) :
    (scopes.poll i).2.cause? i = some cause := by
  induction scopes with
  | nil => cases h
  | cons s older ih =>
    rw [poll] at h ⊢
    by_cases top : i = older.length
    · rw [if_pos top] at h ⊢
      rcases s with ⟨deadline, parent, _ | known⟩
      · rcases deadline with _ | _ | _ <;> rcases parent with _ | parent <;>
          first
          | cases h; done
          | rw [cause?_cons, if_pos (by simpa using top)]; exact h
      · rw [cause?_cons, if_pos top]
        exact h
    · rw [if_neg top] at h ⊢
      rw [cause?_cons, if_neg (by simpa using top)]
      exact ih h

/-! ### Changes -/

@[simp] theorem length_update (f : Scope → Scope) (id : ScopeId) (scopes : Scopes) :
    (scopes.update f id).length = scopes.length := by
  induction scopes with
  | nil => rfl
  | cons s older ih =>
    rw [update]
    split
    · rfl
    · rw [List.length_cons, List.length_cons, ih]

@[simp] theorem length_cancel (id : ScopeId) (cause : Option Cause) (scopes : Scopes) :
    (scopes.cancel id cause).length = scopes.length := length_update _ _ _

/-- There is nothing to change in a scope that was not made. -/
theorem update_of_length_le {f : Scope → Scope} (h : scopes.length ≤ k) :
    scopes.update f k = scopes := by
  induction scopes with
  | nil => rfl
  | cons s older ih =>
    rw [List.length_cons] at h
    rw [update, if_neg (Nat.ne_of_gt h), ih (Nat.le_of_succ_le h)]

/-- A change of one scope is none to those that were made before it. -/
theorem isCancelled_update_of_lt (f : Scope → Scope) (h : i < k) :
    isCancelled i (scopes.update f k) = isCancelled i scopes := by
  induction scopes with
  | nil => rfl
  | cons s older ih =>
    rw [update]
    by_cases newest : k = older.length
    · have earlier : i ≠ older.length := Nat.ne_of_lt (newest ▸ h)
      rw [if_pos newest, isCancelled_cons, isCancelled_cons, if_neg earlier, if_neg earlier]
    · rw [if_neg newest, isCancelled_cons, isCancelled_cons, length_update, ih]
      by_cases top : i = older.length
      · rw [update_of_length_le (Nat.le_of_lt (top ▸ h))]
      · rw [if_neg top, if_neg top]

/-- Whoever is cancelled stays so through a change that takes nothing back. -/
theorem isCancelled_update {f : Scope → Scope} (heeds : Scope.Heeds f) (id : ScopeId)
    (h : isCancelled i scopes) : isCancelled i (scopes.update f id) := by
  induction scopes generalizing i with
  | nil => exact h
  | cons s older ih =>
    rw [isCancelled_cons] at h
    rw [update]
    by_cases top : i = older.length
    · rw [if_pos top] at h
      simp only [Bool.or_eq_true, decide_eq_true_eq] at h
      split
      · rw [isCancelled_cons, if_pos top, heeds.parent]
        simp only [Bool.or_eq_true, decide_eq_true_eq]
        exact h.imp_left (Or.imp (heeds.cause s) (heeds.deadline s))
      · rw [isCancelled_cons, length_update, if_pos top]
        simp only [Bool.or_eq_true, decide_eq_true_eq]
        refine h.imp_right ?_
        cases s.parent with
        | none => exact fun h => h
        | some parent => exact ih
    · rw [if_neg top] at h
      split
      · rwa [isCancelled_cons, if_neg top]
      · rw [isCancelled_cons, length_update, if_neg top]
        exact ih h

theorem isCancelled_cancel (id : ScopeId) (cause : Option Cause) (h : isCancelled i scopes) :
    isCancelled i (scopes.cancel id cause) := isCancelled_update (Scope.heeds_learn _) id h

/-- A scope that is told to be cancelled is. -/
theorem isCancelled_cancel_self (cause : Option Cause) (h : i < scopes.length) :
    isCancelled i (scopes.cancel i cause) := by
  unfold cancel
  induction scopes with
  | nil => exact absurd h (Nat.not_lt_zero i)
  | cons s older ih =>
    rw [List.length_cons] at h
    rw [update]
    by_cases newest : i = older.length
    · rw [if_pos newest, isCancelled_cons, if_pos newest, Scope.learn_isSome]
      rfl
    · rw [if_neg newest, isCancelled_cons, length_update, if_neg newest]
      exact ih (Nat.lt_of_le_of_ne (Nat.le_of_lt_succ h) newest)

/-- A scope that is new changes nothing about those that were made before. -/
theorem isCancelled_create (deadline : Deadline) (parent : Option ScopeId)
    (h : i < scopes.length) :
    isCancelled i (scopes.create deadline parent).2 = isCancelled i scopes := by
  unfold create
  rw [isCancelled_cons, if_neg (Nat.ne_of_lt h)]

end Scopes

end ExaWire
