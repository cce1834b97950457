/-
ExaWire/Proofs/Action.lean

How to reason about actions.

`Ends a s Q` says that `a`, started in `s`, ends as `Q` says of its result and of the
state that it leaves.  Each building block of an action has one rule, so that the
proof about an action follows its text.

An action *leads along* a relation if every state it may start in is related to the
state that it leaves, however it ends.  Along a preorder this passes through
sequences and choices.
-/
import ExaWire.Client.Held
import Mathlib.Logic.Relation
import Mathlib.Order.Defs.Unbundled

namespace ExaWire

variable {σ ε α β ω o : Type}

/-- An action started in a state ends as `Q` says. -/
def Ends (a : ExceptT ε (StateM σ) α) (s : σ) (Q : Except ε α → σ → Prop) : Prop :=
  Q (a s).1 (a s).2

theorem bind_apply (a : ExceptT ε (StateM σ) α) (f : α → ExceptT ε (StateM σ) β) (s : σ) :
    (a >>= f) s = match a s with
      | (.ok x, t) => f x t
      | (.error e, t) => (.error e, t) := by
  show (match a s with | (r, t) => ExceptT.bindCont f r t) = _
  rcases a s with ⟨r | r, t⟩ <;> rfl

theorem get_bind_apply (f : σ → ExceptT ε (StateM σ) α) (s : σ) :
    ((MonadState.get : ExceptT ε (StateM σ) σ) >>= f) s = f s s := rfl

namespace Ends

variable {s : σ} {P Q : Except ε α → σ → Prop}

theorem mono {a : ExceptT ε (StateM σ) α} (ha : Ends a s P) (h : ∀ r t, P r t → Q r t) :
    Ends a s Q := h _ _ ha

theorem pure {x : α} (h : Q (.ok x) s) : Ends (Pure.pure x : ExceptT ε (StateM σ) α) s Q := h

theorem throw {e : ε} (h : Q (.error e) s) :
    Ends (MonadExcept.throw e : ExceptT ε (StateM σ) α) s Q := h

theorem and {a : ExceptT ε (StateM σ) α} (ha : Ends a s P) (ha' : Ends a s Q) :
    Ends a s fun r t => P r t ∧ Q r t := ⟨ha, ha'⟩

theorem bind {a : ExceptT ε (StateM σ) β} {f : β → ExceptT ε (StateM σ) α}
    {R : Except ε β → σ → Prop} (ha : Ends a s R) (hok : ∀ x t, R (.ok x) t → Ends (f x) t Q)
    (herr : ∀ e t, R (.error e) t → Q (.error e) t) : Ends (a >>= f) s Q := by
  unfold Ends at ha ⊢
  rw [bind_apply]
  rcases e : a s with ⟨r | x, t⟩ <;> rw [e] at ha
  · exact herr r t ha
  · exact hok x t ha

theorem map {a : ExceptT ε (StateM σ) β} {f : β → α} {R : Except ε β → σ → Prop}
    (ha : Ends a s R) (h : ∀ r t, R r t → Q (r.map f) t) : Ends (f <$> a) s Q := by
  rw [map_eq_pure_bind]
  exact ha.bind (fun x t hx => h (.ok x) t hx) fun e t he => h (.error e) t he

end Ends

theorem Ends.ite {p : Prop} [Decidable p] {a b : ExceptT ε (StateM σ) α} {s : σ}
    {Q : Except ε α → σ → Prop} (ha : p → Ends a s Q) (hb : ¬ p → Ends b s Q) :
    Ends (if p then a else b) s Q := by
  split
  · next h => exact ha h
  · next h => exact hb h

/-! ### Actions of a client -/

section Client

open ExaWire.Action

variable {c : Client ω} {Q : Attempt α → Client ω → Prop}

theorem Ends.session {f : Session → Action ω α} (h : Ends (f c.session) c Q) :
    Ends (Action.session >>= f) c Q := h

theorem Ends.update {g : Client ω → Client ω} {f : Unit → Action ω α} (h : Ends (f ()) (g c) Q) :
    Ends (Action.update g >>= f) c Q := h

theorem Ends.note {level : Level} {text : String} {f : Unit → Action ω α}
    (h : Ends (f ()) (c.annotate [⟨level, text⟩]) Q) : Ends (Action.note level text >>= f) c Q := h

theorem Ends.setSession {g : Session → Session} {f : Unit → Action ω α}
    (h : Ends (f ()) { c with session := g c.session } Q) :
    Ends (Action.setSession g >>= f) c Q := h

theorem Ends.ofAttempt {x : Attempt β} {f : β → Action ω α} (hok : ∀ b, x = .ok b → Ends (f b) c Q)
    (herr : ∀ e, x = .error e → Q (.error e) c) : Ends (Action.ofAttempt x >>= f) c Q := by
  cases x with
  | ok b => exact hok b rfl
  | error e => exact herr e rfl

theorem Ends.ofAttempt_ok {x : Attempt β} {b : β} {f : β → Action ω α} (hx : x = .ok b)
    (h : Ends (f b) c Q) : Ends (Action.ofAttempt x >>= f) c Q := by
  rw [hx]
  exact h

theorem Ends.attempt {a : Action ω β} {f : Attempt β → Action ω α}
    {R : Attempt β → Client ω → Prop} (ha : Ends a c R) (h : ∀ r t, R r t → Ends (f r) t Q) :
    Ends (Action.attempt a >>= f) c Q := h _ _ ha

/-- What the end of a block makes sure of holds after the block, however its body ends. -/
theorem Ends.guarded {body : Action ω α} {leave : Action ω Unit} {K : Client ω → Prop}
    (h : ∀ c, Ends leave c fun _ c' => K c') : Ends (Action.guarded body leave) c fun _ c' => K c' := by
  -- nothing is asked of the body, because the end of the block is run after all that it may do
  refine .attempt (R := fun _ _ => True) trivial fun _ c₁ _ => ?_
  exact (h c₁).bind (fun _ _ hk => hk) fun _ _ hk => hk

end Client

/-! ### Actions on an object beside a client -/

section Held

variable {s : o × Client ω} {Q : Attempt α → o × Client ω → Prop}

theorem Ends.object {f : o → Held o ω α} (h : Ends (f s.1) s Q) : Ends (Held.object >>= f) s Q := h

theorem Ends.change {g : o → o} {f : Unit → Held o ω α} (h : Ends (f ()) (g s.1, s.2) Q) :
    Ends (Held.change g >>= f) s Q := h

theorem Ends.act {a : Action ω β} {f : β → Held o ω α} {R : Attempt β → Client ω → Prop}
    (ha : Ends a s.2 R) (hok : ∀ x c, R (.ok x) c → Ends (f x) (s.1, c) Q)
    (herr : ∀ e c, R (.error e) c → Q (.error e) (s.1, c)) : Ends (Held.act a >>= f) s Q := by
  refine Ends.bind (R := fun r t => R r t.2 ∧ t.1 = s.1) ⟨ha, rfl⟩ ?_ ?_
  · rintro x ⟨y, c⟩ ⟨hx, rfl⟩
    exact hok x c hx
  · rintro e ⟨y, c⟩ ⟨he, rfl⟩
    exact herr e c he

theorem Ends.actSession {f : Session → Held o ω α} (h : Ends (f s.2.session) s Q) :
    Ends (Held.act Action.session >>= f) s Q := h

theorem Ends.actNote {level : Level} {text : String} {f : Unit → Held o ω α}
    (h : Ends (f ()) (s.1, s.2.annotate [⟨level, text⟩]) Q) :
    Ends (Held.act (Action.note level text) >>= f) s Q := h

/-- An action on an object at hand always gives a result: what became of it, and the object. -/
theorem Ends.on {x : o} {c : Client ω} {Q : Attempt α → Client ω → Prop} {a : Held o ω β}
    {f : Attempt β × o → Action ω α} {R : Attempt β → o × Client ω → Prop} (ha : Ends a (x, c) R)
    (h : ∀ r y c', R r (y, c') → Ends (f (r, y)) c' Q) : Ends (a.on x >>= f) c Q := h _ _ _ ha

theorem Ends.heldAttempt {a : Held o ω β} {f : Attempt β → Held o ω α}
    {R : Attempt β → o × Client ω → Prop} (ha : Ends a s R) (h : ∀ r t, R r t → Ends (f r) t Q) :
    Ends (Held.attempt a >>= f) s Q := h _ _ ha

theorem Ends.heldOfAttempt {x : Attempt β} {f : β → Held o ω α}
    (hok : ∀ b, x = .ok b → Ends (f b) s Q) (herr : ∀ e, x = .error e → Q (.error e) s) :
    Ends (Held.ofAttempt x >>= f) s Q := by
  cases x with
  | ok b => exact hok b rfl
  | error e => exact herr e rfl

theorem Ends.heldOfAttempt_ok {x : Attempt β} {b : β} {f : β → Held o ω α} (hx : x = .ok b)
    (h : Ends (f b) s Q) : Ends (Held.ofAttempt x >>= f) s Q := by
  rw [hx]
  exact h

end Held

/-! ### Relations along actions -/

/-- Wherever an action starts, the state that it leaves is related to that. -/
def Leads (R : σ → σ → Prop) (a : ExceptT ε (StateM σ) α) : Prop := ∀ s, Ends a s fun _ t => R s t

namespace Leads

variable {R : σ → σ → Prop} [IsPreorder σ R]

theorem pure (x : α) : Leads R (Pure.pure x : ExceptT ε (StateM σ) α) := refl_of R

theorem throw (e : ε) : Leads R (MonadExcept.throw e : ExceptT ε (StateM σ) α) := refl_of R

theorem get : Leads R (MonadState.get : ExceptT ε (StateM σ) σ) := refl_of R

theorem bind {a : ExceptT ε (StateM σ) α} {f : α → ExceptT ε (StateM σ) β} (ha : Leads R a)
    (hf : ∀ x, Leads R (f x)) : Leads R (a >>= f) := by
  intro s
  refine (ha s).bind (fun x t h => ?_) fun e t h => h
  exact (hf x t).mono fun _ u h' => trans_of R h h'

omit [IsPreorder σ R] in
theorem map {a : ExceptT ε (StateM σ) α} (f : α → β) (ha : Leads R a) : Leads R (f <$> a) :=
  fun s => (ha s).map fun _ _ h => h

omit [IsPreorder σ R] in
theorem ite {p : Prop} [Decidable p] {a b : ExceptT ε (StateM σ) α} (ha : Leads R a)
    (hb : Leads R b) : Leads R (if p then a else b) := by
  split
  · exact ha
  · exact hb

theorem forM {f : β → ExceptT ε (StateM σ) PUnit} {xs : List β} (h : ∀ x, Leads R (f x)) :
    Leads R (xs.forM f) := by
  induction xs with
  | nil => exact .pure _
  | cons x xs ih => exact .bind (h x) fun _ => ih

end Leads

end ExaWire
