/-
ExaWire/Proofs/Parallel.lean

Two actions side by side.

`Agree a₁ a₂ s₁ s₂ Q` says that two actions, started in `s₁` and `s₂`, give the same
result and end as `Q` says of it and of the states that they leave.  The states may be
of different types.  Two actions are *parallel* along a relation of states if they agree
wherever they start in related states, and leave related states.  Each building block of
an action has one rule, so that the proof about two actions follows their common text.
-/
import ExaWire.Proofs.Action

namespace ExaWire

variable {σ₁ σ₂ ε α β ω₁ ω₂ o : Type}

/-- Two actions give the same result, and end as `Q` says. -/
def Agree (a₁ : ExceptT ε (StateM σ₁) α) (a₂ : ExceptT ε (StateM σ₂) α) (s₁ : σ₁) (s₂ : σ₂)
    (Q : Except ε α → σ₁ → σ₂ → Prop) : Prop :=
  (a₁ s₁).1 = (a₂ s₂).1 ∧ Q (a₁ s₁).1 (a₁ s₁).2 (a₂ s₂).2

namespace Agree

variable {s₁ : σ₁} {s₂ : σ₂} {P Q : Except ε α → σ₁ → σ₂ → Prop}

theorem mono {a₁ : ExceptT ε (StateM σ₁) α} {a₂ : ExceptT ε (StateM σ₂) α}
    (ha : Agree a₁ a₂ s₁ s₂ P) (h : ∀ r t₁ t₂, P r t₁ t₂ → Q r t₁ t₂) : Agree a₁ a₂ s₁ s₂ Q :=
  ⟨ha.1, h _ _ _ ha.2⟩

theorem pure {x : α} (h : Q (.ok x) s₁ s₂) :
    Agree (Pure.pure x : ExceptT ε (StateM σ₁) α) (Pure.pure x : ExceptT ε (StateM σ₂) α) s₁ s₂ Q :=
  ⟨rfl, h⟩

theorem throw {e : ε} (h : Q (.error e) s₁ s₂) :
    Agree (MonadExcept.throw e : ExceptT ε (StateM σ₁) α)
      (MonadExcept.throw e : ExceptT ε (StateM σ₂) α) s₁ s₂ Q :=
  ⟨rfl, h⟩

theorem bind {a₁ : ExceptT ε (StateM σ₁) β} {a₂ : ExceptT ε (StateM σ₂) β}
    {f₁ : β → ExceptT ε (StateM σ₁) α} {f₂ : β → ExceptT ε (StateM σ₂) α}
    {R : Except ε β → σ₁ → σ₂ → Prop} (ha : Agree a₁ a₂ s₁ s₂ R)
    (hok : ∀ x t₁ t₂, R (.ok x) t₁ t₂ → Agree (f₁ x) (f₂ x) t₁ t₂ Q)
    (herr : ∀ e t₁ t₂, R (.error e) t₁ t₂ → Q (.error e) t₁ t₂) :
    Agree (a₁ >>= f₁) (a₂ >>= f₂) s₁ s₂ Q := by
  unfold Agree at ha ⊢
  rw [bind_apply, bind_apply]
  generalize a₁ s₁ = u₁, a₂ s₂ = u₂ at ha ⊢
  obtain ⟨r, t₁⟩ := u₁
  obtain ⟨_, t₂⟩ := u₂
  obtain ⟨rfl, related⟩ := ha
  cases r with
  | error e => exact ⟨rfl, herr e t₁ t₂ related⟩
  | ok x => exact hok x t₁ t₂ related

theorem ite {p : Prop} [Decidable p] {a₁ b₁ : ExceptT ε (StateM σ₁) α}
    {a₂ b₂ : ExceptT ε (StateM σ₂) α} (ha : Agree a₁ a₂ s₁ s₂ Q) (hb : Agree b₁ b₂ s₁ s₂ Q) :
    Agree (if p then a₁ else b₁) (if p then a₂ else b₂) s₁ s₂ Q := by
  split
  · exact ha
  · exact hb

end Agree

/-- Started in related states, two actions agree and leave related states. -/
def Parallel (S : σ₁ → σ₂ → Prop) (a₁ : ExceptT ε (StateM σ₁) α) (a₂ : ExceptT ε (StateM σ₂) α) :
    Prop :=
  ∀ s₁ s₂, S s₁ s₂ → Agree a₁ a₂ s₁ s₂ fun _ => S

namespace Parallel

variable {S : σ₁ → σ₂ → Prop}

theorem pure (x : α) :
    Parallel S (Pure.pure x : ExceptT ε (StateM σ₁) α) (Pure.pure x : ExceptT ε (StateM σ₂) α) :=
  fun _ _ h => .pure h

theorem throw (e : ε) :
    Parallel S (MonadExcept.throw e : ExceptT ε (StateM σ₁) α)
      (MonadExcept.throw e : ExceptT ε (StateM σ₂) α) :=
  fun _ _ h => .throw h

theorem bind {a₁ : ExceptT ε (StateM σ₁) α} {a₂ : ExceptT ε (StateM σ₂) α}
    {f₁ : α → ExceptT ε (StateM σ₁) β} {f₂ : α → ExceptT ε (StateM σ₂) β} (ha : Parallel S a₁ a₂)
    (hf : ∀ x, Parallel S (f₁ x) (f₂ x)) : Parallel S (a₁ >>= f₁) (a₂ >>= f₂) :=
  fun s₁ s₂ h => (ha s₁ s₂ h).bind (fun x t₁ t₂ ht => hf x t₁ t₂ ht) fun _ _ _ ht => ht

theorem map {a₁ : ExceptT ε (StateM σ₁) α} {a₂ : ExceptT ε (StateM σ₂) α} (f : α → β)
    (ha : Parallel S a₁ a₂) : Parallel S (f <$> a₁) (f <$> a₂) := by
  rw [map_eq_pure_bind, map_eq_pure_bind]
  exact ha.bind fun _ => .pure _

theorem ite {p : Prop} [Decidable p] {a₁ b₁ : ExceptT ε (StateM σ₁) α}
    {a₂ b₂ : ExceptT ε (StateM σ₂) α} (ha : Parallel S a₁ a₂) (hb : Parallel S b₁ b₂) :
    Parallel S (if p then a₁ else b₁) (if p then a₂ else b₂) :=
  fun s₁ s₂ h => .ite (ha s₁ s₂ h) (hb s₁ s₂ h)

/-- What is read of the states may differ, as long as what is done with it goes alike. -/
theorem get {f₁ : σ₁ → ExceptT ε (StateM σ₁) α} {f₂ : σ₂ → ExceptT ε (StateM σ₂) α}
    (h : ∀ s₁ s₂, S s₁ s₂ → Agree (f₁ s₁) (f₂ s₂) s₁ s₂ fun _ => S) :
    Parallel S (MonadState.get >>= f₁) (MonadState.get >>= f₂) := h

end Parallel

/-! ### Actions of a client -/

section Client

open ExaWire.Action

variable {S : Client ω₁ → Client ω₂ → Prop}

namespace Parallel

theorem update {f₁ : Client ω₁ → Client ω₁} {f₂ : Client ω₂ → Client ω₂}
    (h : ∀ c₁ c₂, S c₁ c₂ → S (f₁ c₁) (f₂ c₂)) : Parallel S (Action.update f₁) (Action.update f₂) :=
  fun c₁ c₂ hc => ⟨rfl, h c₁ c₂ hc⟩

theorem ofAttempt (x : Attempt α) :
    Parallel S (Action.ofAttempt x : Action ω₁ α) (Action.ofAttempt x : Action ω₂ α) :=
  fun _ _ h => ⟨rfl, h⟩

theorem attempt {a₁ : Action ω₁ α} {a₂ : Action ω₂ α} (h : Parallel S a₁ a₂) :
    Parallel S (Action.attempt a₁) (Action.attempt a₂) := by
  intro c₁ c₂ hc
  obtain ⟨same, related⟩ := h c₁ c₂ hc
  exact ⟨congrArg Except.ok same, related⟩

theorem guarded {body₁ : Action ω₁ α} {body₂ : Action ω₂ α} {leave₁ : Action ω₁ Unit}
    {leave₂ : Action ω₂ Unit} (hb : Parallel S body₁ body₂) (hl : Parallel S leave₁ leave₂) :
    Parallel S (Action.guarded body₁ leave₁) (Action.guarded body₂ leave₂) :=
  .bind (.attempt hb) fun r => .bind hl fun _ => .ofAttempt r

end Parallel

section Agree

variable {c₁ : Client ω₁} {c₂ : Client ω₂} {Q : Attempt α → Client ω₁ → Client ω₂ → Prop}

theorem Agree.ofAttempt_ok {x₁ x₂ : Attempt β} {b₁ b₂ : β} {f₁ : β → Action ω₁ α}
    {f₂ : β → Action ω₂ α} (h₁ : x₁ = .ok b₁) (h₂ : x₂ = .ok b₂)
    (h : Agree (f₁ b₁) (f₂ b₂) c₁ c₂ Q) :
    Agree (Action.ofAttempt x₁ >>= f₁) (Action.ofAttempt x₂ >>= f₂) c₁ c₂ Q := by
  rw [h₁, h₂]
  exact h

theorem Agree.ofAttempt_error {x₁ x₂ : Attempt β} {e : Failure} {f₁ : β → Action ω₁ α}
    {f₂ : β → Action ω₂ α} (h₁ : x₁ = .error e) (h₂ : x₂ = .error e) (h : Q (.error e) c₁ c₂) :
    Agree (Action.ofAttempt x₁ >>= f₁) (Action.ofAttempt x₂ >>= f₂) c₁ c₂ Q := by
  rw [h₁, h₂]
  exact ⟨rfl, h⟩

theorem Agree.setSession {g₁ g₂ : Session → Session} {f₁ : Unit → Action ω₁ α}
    {f₂ : Unit → Action ω₂ α} (h : Agree (f₁ ()) (f₂ ()) { c₁ with session := g₁ c₁.session }
      { c₂ with session := g₂ c₂.session } Q) :
    Agree (Action.setSession g₁ >>= f₁) (Action.setSession g₂ >>= f₂) c₁ c₂ Q := h

theorem Agree.attempt {a₁ : Action ω₁ β} {a₂ : Action ω₂ β} {f₁ : Attempt β → Action ω₁ α}
    {f₂ : Attempt β → Action ω₂ α} {R : Attempt β → Client ω₁ → Client ω₂ → Prop}
    (ha : Agree a₁ a₂ c₁ c₂ R) (h : ∀ r t₁ t₂, R r t₁ t₂ → Agree (f₁ r) (f₂ r) t₁ t₂ Q) :
    Agree (Action.attempt a₁ >>= f₁) (Action.attempt a₂ >>= f₂) c₁ c₂ Q := by
  obtain ⟨same, related⟩ := ha
  have goesOn := h _ _ _ related
  show Agree (f₁ (a₁ c₁).1) (f₂ (a₂ c₂).1) (a₁ c₁).2 (a₂ c₂).2 Q
  rwa [← same]

end Agree

end Client

/-! ### Actions on an object beside a client -/

section Held

variable {S : Client ω₁ → Client ω₂ → Prop}

/-- The same object beside related clients. -/
def Beside (S : Client ω₁ → Client ω₂ → Prop) (s₁ : o × Client ω₁) (s₂ : o × Client ω₂) : Prop :=
  s₁.1 = s₂.1 ∧ S s₁.2 s₂.2

namespace Parallel

theorem act {a₁ : Action ω₁ α} {a₂ : Action ω₂ α} (h : Parallel S a₁ a₂) :
    Parallel (Beside S) (Held.act a₁ : Held o ω₁ α) (Held.act a₂ : Held o ω₂ α) := by
  rintro ⟨x, c₁⟩ ⟨_, c₂⟩ ⟨rfl, hc⟩
  obtain ⟨same, related⟩ := h c₁ c₂ hc
  exact ⟨same, rfl, related⟩

theorem object : Parallel (Beside S) (Held.object : Held o ω₁ o) (Held.object : Held o ω₂ o) :=
  fun _ _ h => ⟨congrArg Except.ok h.1, h⟩

theorem change (f : o → o) :
    Parallel (Beside S) (Held.change f : Held o ω₁ Unit) (Held.change f : Held o ω₂ Unit) :=
  fun _ _ h => ⟨rfl, congrArg f h.1, h.2⟩

theorem heldOfAttempt (x : Attempt α) :
    Parallel (Beside S) (Held.ofAttempt x : Held o ω₁ α) (Held.ofAttempt x : Held o ω₂ α) :=
  .act (.ofAttempt x)

theorem heldAttempt {a₁ : Held o ω₁ α} {a₂ : Held o ω₂ α} (h : Parallel (Beside S) a₁ a₂) :
    Parallel (Beside S) (Held.attempt a₁) (Held.attempt a₂) := by
  intro s₁ s₂ hs
  obtain ⟨same, related⟩ := h s₁ s₂ hs
  exact ⟨congrArg Except.ok same, related⟩

theorem heldGuarded {body₁ : Held o ω₁ α} {body₂ : Held o ω₂ α} {leave₁ : Bool → Held o ω₁ Unit}
    {leave₂ : Bool → Held o ω₂ Unit} (hb : Parallel (Beside S) body₁ body₂)
    (hl : ∀ failed, Parallel (Beside S) (leave₁ failed) (leave₂ failed)) :
    Parallel (Beside S) (Held.guarded body₁ leave₁) (Held.guarded body₂ leave₂) :=
  .bind (.heldAttempt hb) fun r => .bind (hl _) fun _ => .heldOfAttempt r

theorem on (x : o) {a₁ : Held o ω₁ α} {a₂ : Held o ω₂ α} (h : Parallel (Beside S) a₁ a₂) :
    Parallel S (a₁.on x) (a₂.on x) := by
  intro c₁ c₂ hc
  obtain ⟨same, left, related⟩ := h (x, c₁) (x, c₂) ⟨rfl, hc⟩
  exact ⟨congrArg Except.ok (Prod.ext same left), related⟩

end Parallel

end Held

end ExaWire
