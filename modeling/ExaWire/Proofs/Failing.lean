/-
ExaWire/Proofs/Failing.lean

In which failures an attempt or an action can end.

`Fails p a` says that the attempt `a` gives a result or a failure with the property `p`,
and `FailsOnly p a` says so of an action wherever it starts.  Both pass through
sequences and choices, so the failures of a whole follow from those of its parts.

The writing of a value as JSON ends in one of two faults only, and a request that is an
object tells of them by a failure of its own.
-/
import ExaWire.Proofs.Action
import ExaWire.Session.Codec
import Mathlib.Data.List.Forall2

namespace ExaWire

variable {σ ε α β ω : Type}

/-! ### Attempts -/

/-- An attempt fails, if it does, in a failure with a property. -/
def Fails (p : Failure → Prop) (a : Attempt α) : Prop := ∀ f, a = .error f → p f

namespace Fails

variable {p q : Failure → Prop}

theorem ok (x : α) : Fails p (.ok x) := by
  rintro f ⟨⟩

theorem error {f : Failure} (h : p f) : Fails p (.error f : Attempt α) := by
  rintro g ⟨⟩
  exact h

theorem fault {x : Fault} (h : p (.fault x)) : Fails p (ExaWire.fault x : Attempt α) := error h

theorem mono {a : Attempt α} (ha : Fails p a) (h : ∀ f, p f → q f) : Fails q a := fun f hf =>
  h f (ha f hf)

theorem bind {a : Attempt α} {f : α → Attempt β} (ha : Fails p a) (hf : ∀ x, Fails p (f x)) :
    Fails p (a >>= f) := by
  rcases a with e | x
  · exact error (ha e rfl)
  · exact hf x

theorem okBind {x : α} {f : α → Attempt β} (h : Fails p (f x)) : Fails p (.ok x >>= f) := h

theorem map {a : Attempt α} (f : α → β) (ha : Fails p a) : Fails p (a.map f) := by
  rcases a with e | x
  · exact error (ha e rfl)
  · exact ok _

theorem ite {c : Prop} [Decidable c] {a b : Attempt α} (ha : Fails p a) (hb : Fails p b) :
    Fails p (if c then a else b) := by
  split
  · exact ha
  · exact hb

theorem orBadValue (h : p (.fault .badValue)) (x : Option α) : Fails p (orBadValue x) := by
  cases x with
  | none => exact fault h
  | some x => exact ok x

theorem mapM {f : β → Attempt α} {xs : List β} (h : ∀ x ∈ xs, Fails p (f x)) : Fails p (xs.mapM f) := by
  induction xs with
  | nil => exact ok []
  | cons x xs ih =>
    rw [List.mapM_cons]
    refine bind (h x (.head _)) fun y => bind (ih fun z hz => h z (.tail _ hz)) fun ys => ok _

end Fails

theorem mapM_eq_ok_iff {f : α → Except ε β} {xs : List α} {ys : List β} :
    xs.mapM f = .ok ys ↔ List.Forall₂ (fun x y => f x = .ok y) xs ys := by
  induction xs generalizing ys with
  | nil =>
    rw [List.forall₂_nil_left_iff, List.mapM_nil]
    exact ⟨fun h => (Except.ok.inj h).symm, fun h => congrArg _ h.symm⟩
  | cons x xs ih =>
    rw [List.forall₂_cons_left_iff, List.mapM_cons]
    constructor
    · intro h
      rcases hx : f x with e | y
      · rw [hx] at h
        cases h
      · rcases hxs : xs.mapM f with e | zs
        · rw [hx, hxs] at h
          cases h
        · rw [hx, hxs] at h
          exact ⟨y, zs, rfl, ih.1 hxs, (Except.ok.inj h).symm⟩
    · rintro ⟨y, zs, hx, hxs, rfl⟩
      rw [hx, ih.2 hxs]
      rfl

/-- An attempt at a list fails as its first item that fails. -/
theorem mapM_eq_error_iff {f : α → Except ε β} {xs : List α} {e : ε} :
    xs.mapM f = .error e ↔ ∃ before x after, xs = before ++ x :: after ∧
      (∀ y ∈ before, ∃ z, f y = .ok z) ∧ f x = .error e := by
  induction xs with
  | nil => simp [pure, Except.pure]
  | cons x xs ih =>
    rw [List.mapM_cons]
    constructor
    · intro h
      rcases hx : f x with e' | y
      · rw [hx] at h
        obtain rfl : e' = e := Except.error.inj h
        exact ⟨[], x, xs, rfl, fun y hy => absurd hy List.not_mem_nil, hx⟩
      · rcases hxs : xs.mapM f with e' | ys
        · rw [hx, hxs] at h
          obtain ⟨before, z, after, rfl, fine, fails⟩ := ih.1 (hxs.trans h)
          exact ⟨x :: before, z, after, rfl, List.forall_mem_cons.2 ⟨⟨y, hx⟩, fine⟩, fails⟩
        · rw [hx, hxs] at h
          cases h
    · rintro ⟨before, z, after, cut, fine, fails⟩
      rcases before with _ | ⟨w, before⟩
      · obtain ⟨rfl, rfl⟩ := List.cons.inj cut
        rw [fails]
        rfl
      · obtain ⟨rfl, rfl⟩ := List.cons.inj cut
        obtain ⟨⟨y, hx⟩, fine⟩ := List.forall_mem_cons.1 fine
        rw [hx, ih.2 ⟨before, z, after, rfl, fine, fails⟩]
        rfl

/-- Wherever an action starts, it fails, if it does, in a failure with a property. -/
def FailsOnly (p : ε → Prop) (a : ExceptT ε (StateM σ) α) : Prop :=
  ∀ s, Ends a s fun r _ => ∀ e, r = .error e → p e

namespace FailsOnly

variable {p : ε → Prop}

theorem pure (x : α) : FailsOnly p (Pure.pure x : ExceptT ε (StateM σ) α) := by
  rintro s e ⟨⟩

theorem throw {e : ε} (h : p e) : FailsOnly p (MonadExcept.throw e : ExceptT ε (StateM σ) α) := by
  rintro s e' ⟨⟩
  exact h

theorem bind {a : ExceptT ε (StateM σ) α} {f : α → ExceptT ε (StateM σ) β} (ha : FailsOnly p a)
    (hf : ∀ x, FailsOnly p (f x)) : FailsOnly p (a >>= f) := by
  intro s
  refine (ha s).bind (fun x t _ => hf x t) fun e t he => ?_
  rintro e' ⟨⟩
  exact he e rfl

theorem ofAttempt {p : Failure → Prop} {x : Attempt α} (h : Fails p x) :
    FailsOnly p (Action.ofAttempt x : Action ω α) := fun _ => h

theorem session {p : Failure → Prop} : FailsOnly p (Action.session : Action ω Session) := by
  rintro s e ⟨⟩

theorem update {p : Failure → Prop} (f : Client ω → Client ω) :
    FailsOnly p (Action.update f : Action ω Unit) := by
  rintro s e ⟨⟩

/-- An action that is run to its end does not fail. -/
theorem attempt {p : Failure → Prop} (a : Action ω α) : FailsOnly p (Action.attempt a) := by
  rintro s e ⟨⟩

end FailsOnly

/-! ### Writing -/

/-- Whether a failure is one of the faults that tell that a value has no JSON form. -/
def Failure.isUnwritable : Failure → Bool
  | .fault f => f = .wrongKind || f = .badValue
  | _ => false

namespace Json

theorem fails_writeInt (n : Int) : Fails (·.isUnwritable = true) (writeInt n) := by
  unfold writeInt
  exact .ite (.ok _) (.fault rfl)

theorem fails_writeAtom (v : Value) : Fails (·.isUnwritable = true) (writeAtom v) := by
  cases v <;> rw [writeAtom]
  case int n => exact fails_writeInt n
  case bytes bs => exact .map _ (.orBadValue (by rfl) _)
  case float x => exact .ite (.ok _) (.fault rfl)
  case decimal d => exact .ite (.ok _) (.fault rfl)
  all_goals first | exact .ok _ | exact .fault rfl | simp

theorem fails_writeKey (v : Value) : Fails (·.isUnwritable = true) (writeKey v) := by
  cases v <;> rw [writeKey]
  case int n => exact .map _ (fails_writeInt n)
  case bytes bs => exact .map _ (.orBadValue (by rfl) _)
  case float x => exact .ite (.ok _) (.fault rfl)
  case decimal d => exact .ite (.ok _) (.fault rfl)
  all_goals first | exact .ok _ | exact .fault rfl | simp

mutual
theorem fails_write (v : Value) : Fails (·.isUnwritable = true) (write v) := by
  cases v <;> rw [write]
  case list items => exact .bind (fails_writeItems items) fun _ => .ok _
  case tuple items => exact .bind (fails_writeItems items) fun _ => .ok _
  case object entries => exact .bind (fails_writeEntries entries) fun _ => .ok _
  all_goals first | exact fails_writeAtom _ | simp

theorem fails_writeItems (vs : List Value) : Fails (·.isUnwritable = true) (writeItems vs) := by
  cases vs with
  | nil => exact .ok _
  | cons v vs =>
    exact .bind (fails_write v) fun _ => .bind (fails_writeItems vs) fun _ => .ok _

theorem fails_writeEntries (es : List (Value × Value)) :
    Fails (·.isUnwritable = true) (writeEntries es) := by
  cases es with
  | nil => exact .ok _
  | cons e es =>
    exact .bind (fails_writeKey e.1) fun _ => .bind (fails_write e.2) fun _ =>
      .bind (fails_writeEntries es) fun _ => .ok _
end

end Json

/-- Whether a failure is one of an exchange as such, whatever the reply says: the session cannot
carry the request, or it breaks, or the wait is given up. -/
def Failure.isOfExchange : Failure → Bool
  | .told .broken _ _ | .told .closed _ _ | .told .notConnected _ _ | .cancelled _ | .notAborted _ => true
  | _ => false

theorem Failure.isReported_of_exchange {f : Failure} (h : f.isOfExchange = true) :
    f.isReported = true := by
  cases f with
  | fault x => cases h
  | _ => rfl

/-- A request is encoded, or what stands in the way is told: by a failure of its own if the
request is an object. -/
theorem Session.fails_encode (codec : Codec) (compressing : Bool) (entries : List (Value × Value)) :
    Fails (·.isOfExchange = true) (encode codec compressing (.object entries)) := by
  have hw := Json.fails_write (.object entries)
  unfold encode
  split
  · exact .ok _
  · next g h =>
    have unwritable : g = .wrongKind ∨ g = .badValue := by simpa [Failure.isUnwritable] using hw _ h
    rw [if_pos unwritable]
    exact .error rfl
  · next g hg h =>
    have unwritable := hw _ h
    cases g with
    | fault f => exact absurd rfl (hg f)
    | _ => cases unwritable

end ExaWire
