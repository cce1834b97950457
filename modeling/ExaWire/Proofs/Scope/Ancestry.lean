/-
ExaWire/Proofs/Scope/Ancestry.lean

The forest that scopes form, read off what is known of each of them.

`Above scopes a i` says that `a` is the scope `i` or one of its ancestors.  In a forest
whose parents are older than their children (`Formed`), a scope is cancelled if and only
if a scope above it is struck, that is, knows a cause or is past its deadline
(`isCancelled_iff_above`).  What a change of one scope means to all others follows from
that: it strikes the scope, so it cancels those below it and nobody else
(`isCancelled_update_iff`).
-/
import ExaWire.Proofs.Scope
import Mathlib.Logic.Relation

namespace ExaWire.Scopes

variable {scopes scopes' : Scopes} {i j k a p : ScopeId}

/-! ### What is known of a scope -/

theorem get?_cons (s : Scope) (older : Scopes) :
    get? i (s :: older) = if i = older.length then some s else get? i older := rfl

theorem lt_of_get? {s : Scope} (h : get? i scopes = some s) : i < scopes.length := by
  induction scopes with
  | nil => cases h
  | cons t older ih =>
    rw [get?_cons] at h
    rw [List.length_cons]
    split at h
    · next top => exact Nat.lt_succ_of_le (Nat.le_of_eq top)
    · exact Nat.lt_succ_of_lt (ih h)

theorem exists_get? (made : i < scopes.length) : ∃ s, get? i scopes = some s := by
  induction scopes with
  | nil => cases made
  | cons t older ih =>
    rw [get?_cons]
    by_cases top : i = older.length
    · exact ⟨t, if_pos top⟩
    · rw [if_neg top]
      exact ih (Nat.lt_of_le_of_ne (Nat.le_of_lt_succ made) top)

theorem get?_eq_none_iff : get? i scopes = none ↔ scopes.length ≤ i := by
  refine ⟨fun none => Nat.not_lt.1 fun made => ?_, fun unmade => ?_⟩
  · obtain ⟨s, known⟩ := exists_get? made
    cases none.symm.trans known
  · exact Option.eq_none_iff_forall_not_mem.2 fun s known => Nat.not_lt.2 unmade (lt_of_get? known)

theorem get?_update (f : Scope → Scope) (k : ScopeId) (scopes : Scopes) :
    get? i (scopes.update f k) = if i = k then (get? i scopes).map f else get? i scopes := by
  induction scopes with
  | nil => rw [update, get?, Option.map_none, ite_self]
  | cons s older ih =>
    rw [update]
    by_cases newest : k = older.length
    · rw [if_pos newest, get?_cons, get?_cons, ← newest]
      by_cases same : i = k
      · rw [if_pos same, if_pos same, if_pos same]
        rfl
      · rw [if_neg same, if_neg same, if_neg same]
    · rw [if_neg newest, get?_cons, get?_cons, length_update, ih]
      by_cases top : i = older.length
      · rw [if_pos top, if_pos top, if_neg (top ▸ Ne.symm newest)]
      · rw [if_neg top, if_neg top]

/-- The parent of a scope. -/
def parent? (i : ScopeId) (scopes : Scopes) : Option ScopeId := (scopes.get? i).bind (·.parent)

/-- How the deadline of a scope stands. -/
def deadline? (i : ScopeId) (scopes : Scopes) : Option Deadline := (scopes.get? i).map (·.deadline)

theorem parent?_cons (s : Scope) (older : Scopes) :
    parent? i (s :: older) = if i = older.length then s.parent else parent? i older := by
  unfold parent?
  rw [get?_cons]
  split <;> rfl

theorem deadline?_cons (s : Scope) (older : Scopes) : deadline? i (s :: older) =
    if i = older.length then some s.deadline else deadline? i older := by
  unfold deadline?
  rw [get?_cons]
  split <;> rfl

theorem lt_of_parent? (h : parent? i scopes = some p) : i < scopes.length := by
  obtain ⟨s, known, -⟩ := Option.bind_eq_some_iff.1 h
  exact lt_of_get? known

theorem lt_of_cause? {c : Cause} (h : cause? i scopes = some c) : i < scopes.length := by
  obtain ⟨s, known, -⟩ := Option.bind_eq_some_iff.1 h
  exact lt_of_get? known

theorem lt_of_deadline? {d : Deadline} (h : deadline? i scopes = some d) : i < scopes.length := by
  obtain ⟨s, known, -⟩ := Option.map_eq_some_iff.1 h
  exact lt_of_get? known

/-! ### The forest -/

/-- Every parent is older than its children. -/
def Formed (scopes : Scopes) : Prop := ∀ i p, parent? i scopes = some p → p < i

theorem formed_nil : Formed [] := by
  rintro i p ⟨⟩

theorem formed_cons {s : Scope} {older : Scopes} : Formed (s :: older) ↔
    Formed older ∧ ∀ p, s.parent = some p → p < older.length := by
  constructor
  · refine fun formed => ⟨fun i p h => ?_, fun p h => ?_⟩
    · have earlier : i ≠ older.length := Nat.ne_of_lt (lt_of_parent? h)
      exact formed i p (by rwa [parent?_cons, if_neg earlier])
    · exact formed older.length p (by rwa [parent?_cons, if_pos rfl])
  · rintro ⟨formed, newest⟩ i p h
    rw [parent?_cons] at h
    split at h
    · next top => exact top ▸ newest p h
    · exact formed i p h

/-- The scope `a` is the scope `i` or an ancestor of it. -/
def Above (scopes : Scopes) (a i : ScopeId) : Prop :=
  Relation.ReflTransGen (fun j p => parent? j scopes = some p) i a

theorem Above.refl (scopes : Scopes) (i : ScopeId) : Above scopes i i := Relation.ReflTransGen.refl

theorem Above.of_parent (h : parent? i scopes = some p) (above : Above scopes a p) : Above scopes a i :=
  above.head h

theorem Above.le (formed : Formed scopes) (h : Above scopes a i) : a ≤ i := by
  induction h with
  | refl => exact Nat.le_refl _
  | tail _ parent ih => exact Nat.le_trans (Nat.le_of_lt (formed _ _ parent)) ih

/-- Where two forests have the same parents, they have the same ancestors. -/
theorem Above.mono {n : Nat} (formed : Formed scopes) (made : i < n)
    (same : ∀ j < n, parent? j scopes' = parent? j scopes) (h : Above scopes a i) :
    Above scopes' a i := by
  induction h with
  | refl => exact Above.refl _ _
  | tail path parent ih =>
    have earlier := Nat.lt_of_le_of_lt (Above.le formed path) made
    exact ih.tail ((same _ earlier).trans parent)

/-! ### Who is cancelled -/

/-- The deadline of a scope has passed. -/
def Late (i : ScopeId) (scopes : Scopes) : Prop := deadline? i scopes = some .passed

/-- A scope knows a cause or is past its deadline. -/
def Struck (i : ScopeId) (scopes : Scopes) : Prop := (cause? i scopes).isSome ∨ Late i scopes

theorem struck_cons (s : Scope) (older : Scopes) : Struck i (s :: older) ↔
    if i = older.length then s.cause.isSome ∨ s.deadline = .passed else Struck i older := by
  unfold Struck Late
  rw [cause?_cons, deadline?_cons]
  split
  · rw [Option.some_inj]
  · rfl

/-- A scope is cancelled if it is struck or its parent is cancelled. -/
theorem isCancelled_iff_parent (formed : Formed scopes) : isCancelled i scopes ↔
    Struck i scopes ∨ ∃ p, parent? i scopes = some p ∧ isCancelled p scopes := by
  induction scopes generalizing i with
  | nil => simp [isCancelled, poll, Struck, Late, cause?, deadline?, parent?, get?]
  | cons s older ih =>
    obtain ⟨formedOlder, newest⟩ := formed_cons.1 formed
    have asOlder : ∀ p, p < older.length → isCancelled p (s :: older) = isCancelled p older := fun p h => by
      rw [isCancelled_cons, if_neg (Nat.ne_of_lt h)]
    rw [isCancelled_cons, struck_cons, parent?_cons]
    by_cases top : i = older.length
    · rw [if_pos top, if_pos top, if_pos top, Bool.or_eq_true, Bool.or_eq_true, decide_eq_true_eq,
        Option.any_eq_true]
      refine or_congr_right (exists_congr fun p => and_congr_right fun parent => ?_)
      rw [asOlder p (newest p parent)]
    · rw [if_neg top, if_neg top, if_neg top, ih formedOlder]
      refine or_congr_right (exists_congr fun p => and_congr_right fun parent => ?_)
      rw [asOlder p (Nat.lt_trans (formedOlder i p parent) (lt_of_parent? parent))]

/-- A scope is cancelled if a scope above it is struck. -/
theorem isCancelled_iff_above (formed : Formed scopes) :
    isCancelled i scopes ↔ ∃ a, Above scopes a i ∧ Struck a scopes := by
  constructor
  · intro h
    induction i using Nat.strongRecOn with
    | ind i ih =>
      obtain struck | ⟨p, parent, cancelled⟩ := (isCancelled_iff_parent formed).1 h
      · exact ⟨i, Above.refl _ _, struck⟩
      · obtain ⟨a, above, struck⟩ := ih p (formed i p parent) cancelled
        exact ⟨a, above.of_parent parent, struck⟩
  · rintro ⟨a, above, struck⟩
    induction above using Relation.ReflTransGen.head_induction_on with
    | refl => exact (isCancelled_iff_parent formed).2 (.inl struck)
    | head parent _ ih => exact (isCancelled_iff_parent formed).2 (.inr ⟨_, parent, ih⟩)

theorem isCancelled_of_cause? {c : Cause} (formed : Formed scopes) (h : cause? i scopes = some c) :
    isCancelled i scopes :=
  (isCancelled_iff_parent formed).2 (.inl (.inl (Option.isSome_iff_exists.2 ⟨c, h⟩)))

/-! ### Changes of one scope -/

theorem parent?_update {f : Scope → Scope} (heeds : Scope.Heeds f) (k : ScopeId) :
    parent? i (scopes.update f k) = parent? i scopes := by
  unfold parent?
  rw [get?_update]
  split
  · cases get? i scopes with
    | none => rfl
    | some s => exact heeds.parent s
  · rfl

theorem formed_update {f : Scope → Scope} (heeds : Scope.Heeds f) (k : ScopeId) (formed : Formed scopes) :
    Formed (scopes.update f k) := fun i p h => formed i p (by rwa [parent?_update heeds] at h)

theorem cause?_update_of_ne (f : Scope → Scope) (h : i ≠ k) :
    cause? i (scopes.update f k) = cause? i scopes := by
  unfold cause?
  rw [get?_update, if_neg h]

theorem deadline?_update_of_ne (f : Scope → Scope) (h : i ≠ k) :
    deadline? i (scopes.update f k) = deadline? i scopes := by
  unfold deadline?
  rw [get?_update, if_neg h]

/-- A change that gives a scope a cause or makes it late strikes this scope and no other. -/
theorem struck_update_iff {f : Scope → Scope}
    (strikes : ∀ s, (f s).cause.isSome ∨ (f s).deadline = .passed) (made : k < scopes.length) :
    Struck i (scopes.update f k) ↔ Struck i scopes ∨ i = k := by
  by_cases same : i = k
  · obtain ⟨s, known⟩ := exists_get? (same ▸ made : i < scopes.length)
    refine iff_of_true ?_ (.inr same)
    unfold Struck Late cause? deadline?
    rw [get?_update, if_pos same, known]
    exact (strikes s).imp_right (congrArg some)
  · unfold Struck Late
    rw [cause?_update_of_ne f same, deadline?_update_of_ne f same, or_iff_left same]

/-- Whoever is below a scope that is struck is cancelled, and nobody else is who was not. -/
theorem isCancelled_update_iff {f : Scope → Scope} (heeds : Scope.Heeds f)
    (strikes : ∀ s, (f s).cause.isSome ∨ (f s).deadline = .passed) (formed : Formed scopes)
    (made : k < scopes.length) :
    isCancelled i (scopes.update f k) ↔ isCancelled i scopes ∨ Above scopes k i := by
  have above : ∀ a, Above (scopes.update f k) a i ↔ Above scopes a i := fun a => by
    unfold Above
    simp only [parent?_update heeds]
  simp only [isCancelled_iff_above (formed_update heeds k formed), isCancelled_iff_above formed, above,
    struck_update_iff strikes made, and_or_left, exists_or, exists_eq_right]

end ExaWire.Scopes
