/-
ExaWire/Proofs/Script/Course.lean

The course of a dialogue.

A call other than one that makes a session is a *leg*: it takes the client along a
path, and of the caller's objects it touches only the one it is made on and the one
that it is about.  A course is a login and then any calls, in any order, on any
objects, with or without scopes; between two of them the far end and the scopes may
change in any way.
-/
import ExaWire.Proofs.Session.Closing
import ExaWire.Script.Dialogue

namespace ExaWire.Script

open Network
open Client (Path)

variable {ω o α β : Type} {env : Environment ω} {P : Conduct} {N : String → Prop}

/-! ### Calls -/

/-- Whether a call works on the session that there is, rather than making one. -/
def Call.isOperation : Call → Bool
  | .connect _ | .connectTo _ | .login => false
  | _ => true

/-- Whether a call closes the session. -/
def Call.closes : Call → Bool
  | .closeSession | .guardSession | .close | .guardConnection _ _ => true
  | _ => false

/-- The request that a call hands to the session as it is. -/
def Call.request? : Call → Option Value
  | .send request _ => some request
  | _ => none

/-- What a client does for a call. -/
def Call.conduct (call : Call) : Conduct where
  sends request := Command.IsOwn request ∨ call.request? = some request
  closes := call.closes

/-! ### Objects of the caller -/

theorem lookup_filter_ne {objects : List (String × Object)} {name other : String}
    (h : other ≠ name) : (objects.filter (·.1 ≠ name)).lookup other = objects.lookup other := by
  induction objects with
  | nil => rfl
  | cons object objects ih =>
    obtain ⟨key, object⟩ := object
    by_cases hk : key = name
    · subst hk
      simpa [List.lookup_cons, beq_false_of_ne h] using ih
    · simp only [hk, ne_eq, not_false_eq_true, decide_true, List.filter_cons_of_pos,
        List.lookup_cons]
      rw [ih]

/-- A part of a dialogue that leaves all objects but some alone. -/
structure Dialogue.Leg (env : Environment ω) (P : Conduct) (N : String → Prop)
    (d d' : Dialogue ω) : Prop where
  path : Path env P d.client d'.client
  hasSession : d'.hasSession = d.hasSession
  objects : ∀ name, ¬ N name → d'.objects.lookup name = d.objects.lookup name

open Dialogue (Leg)

instance : IsPreorder (Dialogue ω) (Leg env P N) where
  refl _ := ⟨.refl, rfl, fun _ _ => rfl⟩
  trans _ _ _ h h' := ⟨h.path.trans h'.path, h'.hasSession.trans h.hasSession,
    fun name hn => (h'.objects name hn).trans (h.objects name hn)⟩

namespace Stage

theorem leg_ofAttempt (x : Attempt α) : Leads (Leg env P N) (ofAttempt x : Stage ω α) := by
  cases x with
  | ok a => exact .pure a
  | error f => exact .throw _

theorem act_apply {a : Action ω α} {d : Dialogue ω} (hs : d.hasSession = true) :
    act a d = ofAttempt (a d.client).1 { d with client := (a d.client).2 } := by
  show (if d.hasSession then _ else _ : Stage ω α) d = _
  rw [if_pos hs]
  rfl

theorem ends_act {a : Action ω α} {d : Dialogue ω} {Q : Attempt α → Client ω → Prop}
    (hs : d.hasSession = true) (h : Ends a d.client Q) :
    Ends (act a) d fun result d' => ∃ r, Q r d'.client ∧ result = r.mapError .failed := by
  unfold Ends at h ⊢
  rw [act_apply hs]
  generalize a d.client = t at h ⊢
  obtain ⟨r, c⟩ := t
  cases r with
  | ok x => exact ⟨.ok x, h, rfl⟩
  | error f => exact ⟨.error f, h, rfl⟩

theorem onKept_apply {d : Dialogue ω} {name : String} (hs : d.hasSession = true) (wrap : o → Object) (x : o) (a : Held o ω α) :
    onKept name wrap x a d = ofAttempt (a (x, d.client)).1
      { d with
        client := (a (x, d.client)).2.2
        objects := (name, wrap (a (x, d.client)).2.1) :: d.objects.filter (·.1 ≠ name) } := by
  unfold onKept
  rw [bind_apply, act_apply hs]
  rfl

theorem leg_act {a : Action ω α} (h : Leads (Path env P) a) :
    Leads (Leg env P N) (act a : Stage ω α) := by
  intro d
  by_cases hs : d.hasSession = true
  · have moved : Leg env P N d { d with client := (a d.client).2 } := ⟨h d.client, rfl, fun _ _ => rfl⟩
    unfold Ends
    rw [act_apply hs]
    exact trans_of (Leg env P N) moved (leg_ofAttempt _ _)
  · have e : act a d = (throw .missing : Stage ω α) d := by
      show (if d.hasSession then _ else _ : Stage ω α) d = _
      rw [if_neg hs]
    unfold Ends
    rw [e]
    exact Leads.throw _ d

theorem leg_find (name : String) : Leads (Leg env P N) (find name : Stage ω Object) := by
  refine .bind .get fun d => ?_
  rcases d.objects.lookup name with _ | object
  · exact .throw _
  · exact .pure _

theorem leg_forget {name : String} (h : N name) : Leads (Leg env P N) (forget name : Stage ω Unit) :=
  fun _ => ⟨.refl, rfl, fun _ hn => lookup_filter_ne fun e => hn (e ▸ h)⟩

theorem leg_keep {name : String} (h : N name) (object : Object) :
    Leads (Leg env P N) (keep name object : Stage ω Unit) := by
  refine .bind (leg_forget h) fun _ d => ⟨.refl, rfl, fun other hn => ?_⟩
  have : (other == name) = false := beq_false_of_ne fun e => hn (e ▸ h)
  show List.lookup other ((name, object) :: d.objects) = _
  rw [List.lookup_cons, this]

theorem leg_unfit : Leads (Leg env P N) (unfit : Stage ω α) := leg_ofAttempt _

section Kept

variable {name : String} (h : N name)
include h

theorem leg_onKept (wrap : o → Object) (x : o) {a : Held o ω α} (ha : Leads (Held.Path env P) a) :
    Leads (Leg env P N) (onKept name wrap x a) :=
  .bind (leg_act (Held.path_on x ha)) fun _ => .bind (leg_keep h _) fun _ => leg_ofAttempt _

theorem leg_onCursor {a : Held Cursor ω α} (ha : Leads (Held.Path env P) a) :
    Leads (Leg env P N) (onCursor name a) := by
  refine .bind (leg_find name) fun object => ?_
  cases object with
  | cursor c => exact leg_onKept h _ _ ha
  | statement | transaction => exact leg_unfit

theorem leg_onStatement {a : Held Prepared ω α} (ha : Leads (Held.Path env P) a) :
    Leads (Leg env P N) (onStatement name a) := by
  refine .bind (leg_find name) fun object => ?_
  cases object with
  | statement p => exact leg_onKept h _ _ ha
  | cursor | transaction => exact leg_unfit

theorem leg_onTransaction {a : Held Transaction ω α} (ha : Leads (Held.Path env P) a) :
    Leads (Leg env P N) (onTransaction name a) := by
  refine .bind (leg_find name) fun object => ?_
  cases object with
  | transaction t => exact leg_onKept h _ _ ha
  | cursor | statement => exact leg_unfit

theorem leg_keepCursor {make : Stage ω Cursor} (hm : Leads (Leg env P N) make) :
    Leads (Leg env P N) (keepCursor name make) :=
  .bind (leg_forget h) fun _ => .bind hm fun _ => .bind (leg_keep h _) fun _ => .pure _

theorem leg_keepTransaction {make : Action ω Transaction} (hm : Leads (Path env P) make) :
    Leads (Leg env P N) (keepTransaction name make) :=
  .bind (leg_forget h) fun _ => .bind (leg_act hm) fun _ => .bind (leg_keep h _) fun _ => .pure _

variable (hP : ∀ request, Command.IsOwn request → P.sends request)

omit h in
theorem path_bodyOnOther (body : Body) :
    Leads (Held.Path env P) (body.onOther : Held o ω Unit) := by
  cases body with
  | nothing => exact .pure _
  | interrupt | commit | rollback => exact Held.path_ofAttempt _

include hP

omit h in
theorem path_bodyOnTransaction (body : Body) : Leads (Held.Path env P) (body.onTransaction env) := by
  cases body with
  | nothing => exact .pure _
  | interrupt => exact Held.path_ofAttempt _
  | commit | rollback => exact Transaction.path_finish hP _

theorem leg_guardObject (body : Body) : Leads (Leg env P N) (guardObject env name body) := by
  refine .bind (leg_find name) fun object => ?_
  cases object with
  | cursor c =>
    exact leg_onKept h _ _ (Held.path_guarded (path_bodyOnOther _) fun _ => Cursor.path_close hP)
  | statement p =>
    exact leg_onKept h _ _ (Held.path_guarded (path_bodyOnOther _) fun _ => Prepared.path_close hP)
  | transaction t =>
    exact leg_onKept h _ _
      (Held.path_guarded (path_bodyOnTransaction hP _) (Transaction.path_leave hP))

theorem leg_closeObject : Leads (Leg env P N) (closeObject env name) := by
  refine .bind (leg_find name) fun object => ?_
  cases object with
  | cursor c => exact leg_onKept h _ _ (Cursor.path_close hP)
  | statement p => exact leg_onKept h _ _ (Prepared.path_close hP)
  | transaction => exact leg_unfit

end Kept

end Stage

open Stage

/-- An operation is a leg. -/
theorem Call.leg_perform {call : Call} (operates : call.isOperation)
    (hP : ∀ request, call.conduct.sends request → P.sends request)
    (closing : call.closes → P.closes) (name : String) (scope : Option ScopeId) :
    Leads (Leg env P fun n => n = name ∨ n = call.subject name) (call.perform env name scope) := by
  have own : ∀ request, Command.IsOwn request → P.sends request := fun _ h => hP _ (.inl h)
  -- opened while the call is a variable, so that each case meets its own branch alone
  unfold Call.perform
  cases call with
  | connect | connectTo | login => cases operates
  | send request kind =>
    have sent : P.sends request := hP _ (.inr rfl)
    cases kind with
    | none => exact leg_act (.bind (Session.path_send sent _ _) fun _ => .pure _)
    | some kind => exact leg_act (.bind (Session.path_send sent _ _) fun _ => .pure _)
  | info =>
    refine leg_act (.bind Action.path_session fun s => ?_)
    cases s.info with
    | none => exact .pure _
    | some told => exact .pure _
  | flags => exact leg_act (.bind Action.path_session fun _ => .pure _)
  | execute sql values =>
    exact leg_act (.bind (Connection.path_execute own _ _ _) fun _ => .pure _)
  | query sql values => exact leg_keepCursor (.inl rfl) (leg_act (Connection.path_query own _ _ _))
  | prepare sql =>
    refine .bind (leg_forget (.inl rfl)) fun _ => ?_
    refine .bind (leg_act (Connection.path_prepare own _ _)) fun _ => ?_
    exact .bind (leg_keep (.inl rfl) _) fun _ => .pure _
  | begin => exact leg_keepTransaction (.inl rfl) Connection.path_begin
  | run sql values => exact leg_act (.bind (Statement.path_run own _ _ _) fun _ => .pure _)
  | once sql values =>
    refine leg_act (.bind (Statement.path_once own _ _ _) fun _ => ?_)
    exact .bind (Action.path_ofAttempt _) fun _ => .pure _
  | closeSession => exact leg_act (.bind (Session.path_close (closing rfl)) fun _ => .pure _)
  | guardSession =>
    refine leg_act (.bind (Action.path_guarded (.pure _) ?_) fun _ => .pure _)
    exact Session.path_close (closing rfl)
  | close => exact leg_act (.bind (Connection.path_close (closing rfl)) fun _ => .pure _)
  | guardConnection sql values =>
    refine leg_act (.bind (Action.path_guarded (Connection.path_execute own _ _ _) ?_) fun _ => .pure _)
    exact Connection.path_close (closing rfl)
  | startTransaction =>
    exact leg_keepTransaction (.inl rfl) (.bind Action.path_session fun _ => .pure _)
  | commit | rollback =>
    exact leg_onTransaction (.inl rfl) (.bind (Transaction.path_finish own _) fun _ => .pure _)
  | fetchOne => exact leg_onCursor (.inl rfl) (.bind (Cursor.path_next own) fun _ => .pure _)
  | fetchAll => exact leg_onCursor (.inl rfl) (.bind (Cursor.path_rest own) fun _ => .pure _)
  | columnInfo => exact leg_onCursor (.inl rfl) (.bind Held.path_object fun _ => .pure _)
  | nextInto row =>
    refine .bind (leg_onCursor (.inl rfl) (Cursor.path_nextInto own row)) fun (row, result) => ?_
    refine .bind (fun d => ⟨.refl, rfl, fun _ _ => rfl⟩) fun _ => ?_
    exact .bind (leg_ofAttempt _) fun _ => .pure _
  | lastRow => exact .bind .get fun _ => .pure _
  | queryPrepared cursor values =>
    refine .bind (leg_onStatement (.inl rfl) (Prepared.path_query own _ _)) fun _ => ?_
    exact .bind (leg_keep (.inr rfl) _) fun _ => .pure _
  | executePrepared values =>
    exact leg_onStatement (.inl rfl) (.bind (Prepared.path_execute own _ _) fun _ => .pure _)
  | countPrepared values =>
    refine leg_onStatement (.inl rfl) (.bind (Prepared.path_execute own _ _) fun _ => ?_)
    exact .bind (Held.path_ofAttempt _) fun _ => .pure _
  | bind values =>
    refine leg_onStatement (.inl rfl) (.bind Held.path_object fun _ => ?_)
    exact .bind (Held.path_ofAttempt _) fun _ => .pure _
  | closeObject => exact .bind (leg_closeObject (.inl rfl) own) fun _ => .pure _
  | guardObject body => exact .bind (leg_guardObject (.inl rfl) own body) fun _ => .pure _

/-! ### Courses -/

/-- Whether a call keeps within a conduct. -/
structure Call.Keeps (P : Conduct) (call : Call) : Prop where
  operates : call.isOperation = true
  sends : ∀ request, call.conduct.sends request → P.sends request
  closes : call.closes = true → P.closes

theorem Call.keeps_any {call : Call} (h : call.isOperation = true) : call.Keeps ⟨fun _ => True, True⟩ :=
  ⟨h, fun _ _ => trivial, fun _ => trivial⟩

theorem Move.steady_meet (m : Move ω) (c : Client ω) : c.Steady (m.meet c) :=
  ⟨rfl, rfl, (List.append_nil _).symm⟩

theorem Dialogue.leg_make {m : Move ω} (h : m.call.Keeps P) (d : Dialogue ω) :
    Leg env P (fun n => n = m.name ∨ n = m.call.subject m.name) { d with client := m.meet d.client }
      (d.make env m).2 :=
  Call.leg_perform h.operates h.sends h.closes m.name m.scope _

/-- A dialogue after further moves. -/
def Dialogue.after (env : Environment ω) (d : Dialogue ω) (moves : List (Move ω)) : Dialogue ω :=
  moves.foldl (fun d m => (d.make env m).2) d

theorem Dialogue.after_append (d : Dialogue ω) (moves more : List (Move ω)) :
    d.after env (moves ++ more) = (d.after env moves).after env more :=
  List.foldl_append

/-- A client on a channel, before its login: a bare one, or one that was upgraded at an
address. -/
def onChannel (config : Config) (url : Option String) (wire : ω) (scopes : Scopes) : Client ω where
  session := { config, attached := true }
  link := match url with
    | none => .bare
    | some url => .framed url false
  wire := wire
  scopes := scopes

/-- A course: a login, and then moves in order. -/
def course (env : Environment ω) (c : Client ω) (scope : Option ScopeId) (moves : List (Move ω)) :
    Dialogue ω :=
  Dialogue.after env { client := (Session.login env scope c).2 } moves

theorem course_singleton (env : Environment ω) (c : Client ω) (scope : Option ScopeId) (m : Move ω) :
    course env c scope [m] =
      (Dialogue.make env { client := (Session.login env scope c).2 } m).2 := rfl

/-- A relation of clients that holds along steps and across the time between two moves holds
along a dialogue. -/
theorem Dialogue.after_relates {R : Client ω → Client ω → Prop} [IsPreorder (Client ω) R]
    {moves : List (Move ω)} (between : ∀ m ∈ moves, ∀ c, R c (m.meet c))
    (along : ∀ c c', Path env P c c' → R c c') (h : ∀ m ∈ moves, m.call.Keeps P)
    (d : Dialogue ω) : R d.client (d.after env moves).client := by
  induction moves generalizing d with
  | nil => exact refl_of R _
  | cons m moves ih =>
    obtain ⟨hm, hmoves⟩ := List.forall_mem_cons.1 h
    obtain ⟨met, meets⟩ := List.forall_mem_cons.1 between
    have made : R d.client (d.make env m).2.client :=
      trans_of R (met _) (along _ _ (d.leg_make hm).path)
    exact trans_of R made (ih meets hmoves _)

/-! ### Canned replies -/

/-- A wire that takes every frame and gives replies from a list. -/
def canned : Wire (List Bytes) where
  send _ replies := { result := .ok (), rest := replies }
  poll replies := { result := .ok true, rest := replies }
  receive
    | [] => { result := .ok none, rest := [] }
    | bs :: replies => { result := .ok (some bs), rest := replies }
  close replies := { result := .ok (), rest := replies }
  patience _ := 0
  patience_lt _ h := by cases h

/-- An environment with canned replies, and with nothing to dial or to open. -/
def cannedEnvironment : Environment (List Bytes) where
  wire := canned
  codec := ⟨id, some⟩
  padding _ := []
  station := ⟨"TestOS", "TestRuntime", .ok "tester"⟩
  directory _ _ := .error "no route"
  files _ := none

/-- A reply that carries data, which is given in parts: short texts are evaluated sooner. -/
def cannedReply (data : List String) : Bytes :=
  (["\x7b\"status\": \"ok\", ", "\"responseData\": "] ++ data ++ ["\x7d"]).flatMap Utf8.encode

/-- Settings for a login with a token. -/
def cannedConfig : Config := { accessToken := "token" }

/-- Canned replies for a course: to the two requests of a login with a token, and then more. -/
def cannedLogin (replies : List Bytes) : List Bytes :=
  cannedReply ["\x7b\x7d"] :: cannedReply ["\x7b\x7d"] :: replies

end ExaWire.Script
