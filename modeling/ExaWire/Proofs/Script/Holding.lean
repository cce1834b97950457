/-
ExaWire/Proofs/Script/Holding.lean

Objects of the caller, and the calls on them.

A dialogue holds an object under a name for as long as no call makes another object under
that name (`Call.makes`).  In that time an object is touched only by a call that is made by
its name and is one that it knows (`Call.suits`).  All others spare it, whatever they are
made on, even if they open, break or close the session: so the story of an object is that of
the calls on it, and these write all the frames that are written on its behalf.
-/
import ExaWire.Proofs.Script.Course
import ExaWire.Proofs.Session.Tried

namespace ExaWire.Script

open Network Stage

variable {ω o α : Type} {env : Environment ω} {x : String} {object : Object} {d d' : Dialogue ω}

/-- Whether a call is one that an object knows. -/
def Call.suits : Call → Object → Bool
  | .fetchOne, .cursor _ | .fetchAll, .cursor _ | .columnInfo, .cursor _ | .nextInto _, .cursor _ => true
  | .queryPrepared _ _, .statement _ | .executePrepared _, .statement _
  | .countPrepared _, .statement _ | .bind _, .statement _ => true
  | .commit, .transaction _ | .rollback, .transaction _ => true
  | .closeObject, .cursor _ | .closeObject, .statement _ => true
  | .guardObject _, _ => true
  | _, _ => false

/-- The name of the object that a call makes. -/
def Call.makes (name : String) : Call → Option String
  | .query _ _ | .prepare _ | .begin | .startTransaction => some name
  | .queryPrepared cursor _ => some cursor
  | _ => none

/-- A dialogue that holds an object under a name. -/
structure Dialogue.Holds (x : String) (object : Object) (d : Dialogue ω) : Prop where
  hasSession : d.hasSession = true
  object : d.objects.lookup x = some object

open Dialogue (Holds)

/-! ### Calls on an object -/

theorem find_apply (h : d.objects.lookup x = some object) : find x d = (.ok object, d) := by
  unfold find
  rw [get_bind_apply, h]
  rfl

theorem ends_find {f : Object → Stage ω α} {Q : Except Trouble α → Dialogue ω → Prop}
    (h : d.Holds x object) (ends : Ends (f object) d Q) : Ends (find x >>= f) d Q := by
  unfold Ends at ends ⊢
  rw [bind_apply, find_apply h.object]
  exact ends

/-- An action on the object of a name is told, and the object stays under its name. -/
theorem onKept_holds (hs : d.hasSession = true) (wrap : o → Object) {y y' : o} {a : Held o ω α}
    {r : Attempt α} {c : Client ω} (ran : a (y, d.client) = (r, y', c)) :
    ∃ d' : Dialogue ω, onKept x wrap y a d = ofAttempt r d' ∧ d'.client = c ∧
      d'.Holds x (wrap y') := by
  have kept : onKept x wrap y a d = _ := onKept_apply hs wrap y a
  rw [ran] at kept
  exact ⟨_, kept, rfl, hs, List.lookup_cons_self⟩

theorem ends_onKept (hs : d.hasSession = true) (wrap : o → Object) {y : o} {a : Held o ω α}
    {R : o × Client ω → Prop} (ends : Ends a (y, d.client) fun _ t => R t) :
    Ends (onKept x wrap y a) d fun _ d' => ∃ y', d'.Holds x (wrap y') ∧ R (y', d'.client) := by
  unfold Ends at ends ⊢
  rcases ran : a (y, d.client) with ⟨r, y', c⟩
  rw [ran] at ends
  obtain ⟨d', kept, rfl, holds⟩ := onKept_holds (x := x) hs wrap ran
  rw [kept]
  cases r with
  | ok _ => exact ⟨y', holds, ends⟩
  | error _ => exact ⟨y', holds, ends⟩

/-! ### Other calls -/

/-- An object under a name stays there, and stays what it is. -/
def Dialogue.Spares (x : String) (object : Object) (d d' : Dialogue ω) : Prop :=
  d.Holds x object → d'.Holds x object

open Dialogue (Spares)

instance : IsPreorder (Dialogue ω) (Spares x object) where
  refl _ h := h
  trans _ _ _ h h' hold := h' (h hold)

section Spared

variable {name : String}

theorem spares_ofAttempt (r : Attempt α) : Leads (Spares x object) (ofAttempt r : Stage ω α) := by
  cases r with
  | ok a => exact .pure a
  | error f => exact .throw _

theorem spares_act (a : Action ω α) : Leads (Spares x object) (act a : Stage ω α) := by
  intro d h
  show Dialogue.Holds x object (act a d).2
  rw [act_apply h.hasSession]
  exact spares_ofAttempt _ _ ⟨h.hasSession, h.object⟩

theorem spares_connect (a : Action ω Unit) : Leads (Spares x object) (Stage.connect a) := by
  intro d h
  show Dialogue.Holds x object (Stage.connect a d).2
  unfold Stage.connect
  rw [get_bind_apply]
  rcases a d.client with ⟨f | _, c⟩
  · exact ⟨h.hasSession, h.object⟩
  · exact ⟨rfl, h.object⟩

theorem spares_forget (other : name ≠ x) : Leads (Spares x object) (forget name : Stage ω Unit) :=
  fun _ h => ⟨h.hasSession, (lookup_filter_ne other.symm).trans h.object⟩

theorem spares_keep (other : name ≠ x) (made : Object) :
    Leads (Spares x object) (keep name made : Stage ω Unit) := by
  refine .bind (spares_forget other) fun _ d h => ⟨h.hasSession, ?_⟩
  have differs : (x == name) = false := beq_false_of_ne other.symm
  show List.lookup x ((name, made) :: d.objects) = _
  rw [List.lookup_cons, differs]
  exact h.object

theorem spares_unfit : Leads (Spares x object) (unfit : Stage ω α) := spares_ofAttempt _

theorem spares_row (row : List Value) :
    Leads (Spares x object) (modify fun d => { d with row } : Stage ω Unit) :=
  fun _ h => ⟨h.hasSession, h.object⟩

theorem spares_onKept (other : name ≠ x) (wrap : o → Object) (y : o) (a : Held o ω α) :
    Leads (Spares x object) (onKept name wrap y a) :=
  .bind (spares_act _) fun _ => .bind (spares_keep other _) fun _ => spares_ofAttempt _

theorem spares_found (name : String) : Leads (Spares x object) (find name : Stage ω Object) := by
  refine .bind .get fun d => ?_
  rcases d.objects.lookup name with _ | object
  · exact .throw _
  · exact .pure _

/-- What is done with the object of a name spares an object, if it spares it whenever that is
another one, and whenever it is the object itself. -/
theorem spares_find {f : Object → Stage ω α}
    (others : name ≠ x → ∀ held, Leads (Spares x object) (f held))
    (itself : name = x → Leads (Spares x object) (f object)) :
    Leads (Spares x object) (find name >>= f) := by
  intro d h
  by_cases own : name = x
  · subst own
    exact ends_find h (itself rfl d) h
  · exact Leads.bind (spares_found name) (others own) d h

theorem spares_onCursor (unsuited : name = x → ∀ c, object ≠ .cursor c) (a : Held Cursor ω α) :
    Leads (Spares x object) (onCursor name a) := by
  refine spares_find (fun other held => ?_) fun own => ?_
  · cases held with
    | cursor c => exact spares_onKept other _ _ _
    | statement | transaction => exact spares_unfit
  · cases object with
    | cursor c => exact absurd rfl (unsuited own c)
    | statement | transaction => exact spares_unfit

theorem spares_onStatement (unsuited : name = x → ∀ p, object ≠ .statement p)
    (a : Held Prepared ω α) : Leads (Spares x object) (onStatement name a) := by
  refine spares_find (fun other held => ?_) fun own => ?_
  · cases held with
    | statement p => exact spares_onKept other _ _ _
    | cursor | transaction => exact spares_unfit
  · cases object with
    | statement p => exact absurd rfl (unsuited own p)
    | cursor | transaction => exact spares_unfit

theorem spares_onTransaction (unsuited : name = x → ∀ t, object ≠ .transaction t)
    (a : Held Transaction ω α) : Leads (Spares x object) (onTransaction name a) := by
  refine spares_find (fun other held => ?_) fun own => ?_
  · cases held with
    | transaction t => exact spares_onKept other _ _ _
    | cursor | statement => exact spares_unfit
  · cases object with
    | transaction t => exact absurd rfl (unsuited own t)
    | cursor | statement => exact spares_unfit

theorem spares_closeObject (unsuited : name = x → Call.suits .closeObject object = false) :
    Leads (Spares x object) (closeObject env name) := by
  refine spares_find (fun other held => ?_) fun own => ?_
  · cases held with
    | cursor c => exact spares_onKept other _ _ _
    | statement p => exact spares_onKept other _ _ _
    | transaction => exact spares_unfit
  · cases object with
    | cursor | statement => cases unsuited own
    | transaction => exact spares_unfit

theorem spares_guardObject (other : name ≠ x) (body : Body) :
    Leads (Spares x object) (guardObject env name body) := by
  refine .bind (spares_found name) fun held => ?_
  cases held with
  | cursor c => exact spares_onKept other _ _ _
  | statement p => exact spares_onKept other _ _ _
  | transaction t => exact spares_onKept other _ _ _

end Spared

/-- A call spares an object if it makes no other one under its name, and is not made on it. -/
theorem Call.spares_perform {call : Call} {name : String} (makes : call.makes name ≠ some x)
    (unsuited : name = x → call.suits object = false) (scope : Option ScopeId) :
    Leads (Spares x object) (call.perform env name scope) := by
  -- opened while the call is a variable, so that each case meets its own branch alone
  unfold Call.perform
  cases call with
  | connect | connectTo => exact spares_connect _
  | send request kind =>
    cases kind with
    | none => exact spares_act _
    | some kind => exact spares_act _
  | login | info | flags | execute | run | once | closeSession | guardSession | close
  | guardConnection => exact spares_act _
  | query sql values =>
    have other : name ≠ x := fun e => makes (congrArg some e)
    refine .bind (spares_forget other) fun _ => .bind (spares_act _) fun cursor => ?_
    exact .bind (spares_keep other _) fun _ => .pure _
  | prepare sql =>
    have other : name ≠ x := fun e => makes (congrArg some e)
    refine .bind (spares_forget other) fun _ => .bind (spares_act _) fun statement => ?_
    exact .bind (spares_keep other _) fun _ => .pure _
  | begin | startTransaction =>
    have other : name ≠ x := fun e => makes (congrArg some e)
    refine .bind (spares_forget other) fun _ => .bind (spares_act _) fun transaction => ?_
    exact .bind (spares_keep other _) fun _ => .pure _
  | commit | rollback =>
    refine spares_onTransaction ?_ _
    rintro own t rfl
    cases unsuited own
  | fetchOne | fetchAll | columnInfo =>
    refine spares_onCursor ?_ _
    rintro own c rfl
    cases unsuited own
  | nextInto row =>
    refine .bind (spares_onCursor ?_ _) fun (row, result) => ?_
    · rintro own c rfl
      cases unsuited own
    · exact .bind (spares_row row) fun _ => .bind (spares_ofAttempt _) fun _ => .pure _
  | lastRow => exact .bind .get fun _ => .pure _
  | queryPrepared cursor values =>
    have other : cursor ≠ x := fun e => makes (congrArg some e)
    refine .bind (spares_onStatement ?_ _) fun _ => ?_
    · rintro own p rfl
      cases unsuited own
    · exact .bind (spares_keep other _) fun _ => .pure _
  | executePrepared | countPrepared | bind =>
    refine spares_onStatement ?_ _
    rintro own p rfl
    cases unsuited own
  | closeObject => exact .bind (spares_closeObject unsuited) fun _ => .pure _
  | guardObject body =>
    have other : name ≠ x := fun own => nomatch unsuited own
    exact .bind (spares_guardObject other body) fun _ => .pure _

/-! ### Moves -/

variable {m : Move ω}

/-- A move is made on the object of a name. -/
def Move.IsOn (x : String) (d : Dialogue ω) (m : Move ω) : Prop :=
  m.name = x ∧ (d.objects.lookup x).any m.call.suits = true

instance : Decidable (m.IsOn x d) := inferInstanceAs (Decidable (_ ∧ _))

/-- The frames that are written by the moves on the object of a name. -/
def Dialogue.framesOn (env : Environment ω) (x : String) : Dialogue ω → List (Move ω) → List Frame
  | _, [] => []
  | d, m :: moves =>
    (if m.IsOn x d then (d.make env m).2.client.frames.drop d.client.frames.length else []) ++
      (d.make env m).2.framesOn env x moves

namespace Dialogue.Holds

theorem met (h : d.Holds x object) (m : Move ω) :
    { d with client := m.meet d.client }.Holds x object := ⟨h.hasSession, h.object⟩

theorem isOn (h : d.Holds x object) : m.IsOn x d ↔ m.name = x ∧ m.call.suits object = true := by
  unfold Move.IsOn
  rw [h.object]
  exact Iff.rfl

/-- A move that is not made on an object, and makes no other one in its place, spares it. -/
theorem spared (h : d.Holds x object) (makes : m.call.makes m.name ≠ some x)
    (aside : ¬ m.IsOn x d) : (d.make env m).2.Holds x object := by
  refine Call.spares_perform makes (fun own => ?_) m.scope _ (h.met m)
  have unsuited : ¬ m.call.suits object = true := fun suits => aside (h.isOn.2 ⟨own, suits⟩)
  simpa using unsuited

end Dialogue.Holds

theorem Move.frames_meet (m : Move ω) (c : Client ω) : (m.meet c).frames = c.frames :=
  (m.steady_meet c).frames

theorem Dialogue.framesOn_of_isOn {moves : List (Move ω)} (own : m.IsOn x d) {news : List Frame}
    (frames : (d.make env m).2.client.frames = d.client.frames ++ news) :
    d.framesOn env x (m :: moves) = news ++ (d.make env m).2.framesOn env x moves := by
  rw [framesOn, if_pos own, frames, List.drop_left]

theorem Dialogue.framesOn_of_not_isOn {moves : List (Move ω)} (aside : ¬ m.IsOn x d) :
    d.framesOn env x (m :: moves) = (d.make env m).2.framesOn env x moves := by
  rw [framesOn, if_neg aside, List.nil_append]

end ExaWire.Script
