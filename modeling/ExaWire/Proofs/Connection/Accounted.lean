/-
ExaWire/Proofs/Connection/Accounted.lean

Whatever the server answers, a failure is reported, or the data of a reply account for it.

Everything that a caller asks of a connection is made of requests, and in between the client
only goes on: it keeps whether its session compresses and forgets no reply
(`Client.Onward`).  So what a request learns on the way, the whole operation learns, and the
accounts of the parts add up.

A statement has two places where data are read: the preparation, and the results, which are
looked into once more when the row count or the result set is wanted.  A cursor has two as well:
the pages that it fetches, and the cells of the row at hand.  The values that a caller gives for
a statement have their own way to a fault, of which no reply is to blame (`Overlong`).
-/
import ExaWire.Proofs.Parameter.Transposed
import ExaWire.Proofs.Session.Accounted

namespace ExaWire

open Network
open Failure (Explained)

variable {ω α β : Type} {env : Environment ω} {c c' c₁ c₂ c₃ : Client ω}

/-! ### Going on -/

/-- A client went on from `c` to `c'`. -/
structure Client.Onward (c c' : Client ω) : Prop where
  compressing : c'.session.compressing = c.session.compressing
  replies : c.replies <+: c'.replies

open Client (Onward)

instance : IsPreorder (Client ω) Onward where
  refl _ := ⟨rfl, List.prefix_refl _⟩
  trans _ _ _ h h' := ⟨h'.compressing.trans h.compressing, h.replies.trans h'.replies⟩

namespace Client

theorem Goes.onward {s : Session} {news : List Happening} (h : c.Goes c' s news)
    (compressing : s.compressing = c.session.compressing) : c.Onward c' :=
  ⟨(congrArg Session.compressing h.session).trans compressing, ⟨_, h.replies.symm⟩⟩

/-- The conduct of a caller who sends requests and does not close the session. -/
def requesting : Conduct := ⟨fun _ => True, False⟩

theorem Step.onward (h : Step env requesting c c') : c.Onward c' := by
  cases h with
  | aside steady => exact steady.onward rfl
  | @send _ request _ read scope =>
    have sends := Session.ends_send env request read scope c
    unfold Ends at sends
    generalize (Session.send env request read scope c).1 = r,
      (Session.send env request read scope c).2 = c' at sends ⊢
    cases sends with
    | refused => exact refl_of Onward _
    | failed _ _ _ _ goes => exact goes.onward rfl
    | answered answers => exact answers.goes.onward rfl
  | close closes => exact closes.elim

theorem Path.onward (h : Path env requesting c c') : c.Onward c' := by
  induction h with
  | refl => exact refl_of Onward _
  | tail _ step ih => exact trans_of Onward ih step.onward

end Client

theorem Leads.onward {a : Action ω α} (h : Leads (Client.Path env Client.requesting) a) :
    Leads Onward a := fun c => Client.Path.onward (h c)

theorem Leads.heldOnward {o : Type} {a : Held o ω α} (h : Leads (Held.Path env Client.requesting) a)
    (s : o × Client ω) : Ends a s fun _ t => s.2.Onward t.2 := Client.Path.onward (h s)

theorem Session.onward_send (request : Value) (read : Value → Attempt α) (scope : Option ScopeId) :
    Leads Onward (send env request read scope) := .onward (path_send trivial read scope)

/-- The requests of the library itself are part of such a conduct. -/
theorem requesting_own (request : Value) (_ : Command.IsOwn request) :
    Client.requesting.sends request := trivial

/-- What an action gives is worked out further. -/
theorem Ends.further {a : Action ω α} {f : α → Attempt β} {R : Attempt α → Client ω → Prop}
    {Q : Attempt β → Client ω → Prop} (ha : Ends a c R) (h : ∀ r c', R r c' → Q (r >>= f) c') :
    Ends (do Action.ofAttempt (f (← a))) c Q :=
  ha.bind (fun x c' hx => h (.ok x) c' hx) fun e c' he => h (.error e) c' he

/-! ### Parameters -/

namespace Parameter

/-- The failures of listed parameters: they say so, or else a decimal is too long. -/
def Refuses (vs : List Value) (f : Failure) : Prop :=
  f.isBeside = true ∨ f = .fault .badValue ∧ ∃ v ∈ vs, isOverlong v = true

theorem fails_convert {v : Value} {vs : List Value} (given : v ∈ vs) (t : ColumnType) :
    Fails (Refuses vs) (convert v t) := by
  intro f failed
  obtain ⟨-, rfl⟩ := refused_of_convert failed
  unfold refusal
  split
  · next long => exact .inr ⟨rfl, v, given, long.2⟩
  · exact .inl rfl

theorem everyFrom_sublist {α : Type} (step skip : Nat) (xs : List α) :
    (everyFrom step skip xs).Sublist xs := by
  fun_induction everyFrom step skip xs with
  | case1 => exact .slnil
  | case2 x xs ih => exact ih.cons_cons x
  | case3 skip x xs ih => exact ih.cons x

theorem fails_convertColumns (width : Nat) (vs : List Value) (i : Nat) (columns : List Column) :
    Fails (Refuses vs) (convertColumns width vs i columns) := by
  induction columns generalizing i with
  | nil => exact .ok _
  | cons column columns ih =>
    refine .bind (.mapM fun v hv => ?_) fun _ => ?_
    · exact fails_convert ((everyFrom_sublist width i vs).subset hv) column.dataType
    · exact .bind (ih (i + 1)) fun _ => .ok _

/-- Parameters that are listed are taken, or refused. -/
theorem fails_build (columns : List Column) (vs : List Value) :
    Fails (Refuses vs) (Batch.build columns (.list vs)) := by
  refine .ite (.ite (.error (.inl rfl)) (.ok _)) (.okBind (.ite (.error (.inl rfl)) ?_))
  exact .bind (fails_convertColumns _ _ _ _) fun _ => .ok _

end Parameter

/-! ### Statements -/

open Session

/-- The results that data tell, which have to have a first one. -/
def resultsOf (v : Value) : Attempt QueryReply := do (← judged (QueryReply.ofValue v)).withFirst

/-- What a statement reads: its preparation, if that ends it, or else its results, which are
looked into further. -/
inductive StatementReads (look : QueryReply → Attempt α) (v : Value) : Attempt α → Prop
  | prepared {f} (h : judged (PreparedReply.ofValue v) = .error f) : StatementReads look v (.error f)
  | executed : StatementReads look v (resultsOf v >>= look)

/-- What is wrong with the data of a statement that ends in a fault. -/
inductive StatementMisfit (More : QueryReply → Fault → Prop) (v : Value) (x : Fault) : Prop
  | prepared (h : Escaping PreparedReply.Misfit v x)
  | executed (h : Escaping QueryReply.Misfit v x)
  /-- the results were taken for good, but they do not have what is looked for -/
  | looked {reply} (read : QueryReply.ofValue v = .ok reply) (h : More reply x)

/-- The account of a statement whose results are not looked into. -/
abbrev StatementAccounted (env : Environment ω) (c : Client ω) : Attempt QueryReply → Client ω → Prop :=
  Accounted env.codec c.session.compressing (StatementReads .ok) (StatementMisfit fun _ _ => False) c

/-- A statement ends in a fault because of the values that are given for it: one of them is a
decimal that is too long to be written. -/
def Overlong (vs : List Value) (r : Attempt α) : Prop :=
  r = .error (.fault .badValue) ∧ ∃ v ∈ vs, Parameter.isOverlong v = true

theorem Overlong.bind {vs : List Value} {r : Attempt α} {f : α → Attempt β} (h : Overlong vs r) :
    Overlong vs (r >>= f) := by
  obtain ⟨rfl, long⟩ := h
  exact ⟨rfl, long⟩

theorem StatementAccounted.within {r : Attempt QueryReply} (h : StatementAccounted env c₁ r c₂)
    (before : c.Onward c₁) (after : c₂.Onward c₃) : StatementAccounted env c r c₃ := by
  unfold StatementAccounted at h ⊢
  rw [before.compressing] at h
  exact h.along before.replies after.replies

theorem resultsOf_bind_ok (v : Value) : (resultsOf v >>= fun reply => .ok reply) = resultsOf v :=
  bind_pure (resultsOf v)

theorem ofValue_of_resultsOf {v : Value} {reply : QueryReply} (h : resultsOf v = .ok reply) :
    QueryReply.ofValue v = .ok reply := by
  unfold resultsOf at h
  cases e : judged (QueryReply.ofValue v) with
  | error f => rw [e] at h; cases h
  | ok r =>
    have same : r.withFirst = .ok reply := by rwa [e] at h
    unfold QueryReply.withFirst at same
    cases first : r.first with
    | error f => rw [first] at same; cases same
    | ok entries =>
      rw [first] at same
      cases same
      exact judged_eq_ok e

/-- The request for the execution of a statement and the look for a first result. -/
theorem accounted_withFirst {codec : Codec} {compressing : Bool} {r : Attempt QueryReply}
    (h : Accounted codec compressing (fun v r => r = judged (QueryReply.ofValue v))
      (Escaping QueryReply.Misfit) c r c') :
    Accounted codec compressing (StatementReads .ok) (StatementMisfit fun _ _ => False) c
      (r >>= QueryReply.withFirst) c' := by
  have first (reply : QueryReply) : Fails (Explained fun _ => False) reply.withFirst :=
    reply.fails_withFirst.mono fun _ => .inl
  refine h.further first ?_ (fun _ _ => .executed) fun _ _ _ _ => False.elim
  rintro v _ rfl
  have reads : StatementReads .ok v (resultsOf v >>= fun reply => .ok reply) := .executed
  rwa [resultsOf_bind_ok] at reads

/-- The results of a statement are looked into. -/
theorem accounted_looked {codec : Codec} {compressing : Bool} {r : Attempt QueryReply}
    {look : QueryReply → Attempt α} {More : QueryReply → Fault → Prop}
    (h : Accounted codec compressing (StatementReads .ok) (StatementMisfit fun _ _ => False) c r c')
    (hl : ∀ reply, Fails (Explained (More reply)) (look reply)) :
    Accounted codec compressing (StatementReads look) (StatementMisfit More) c (r >>= look) c' := by
  refine h.further hl ?_ ?_ ?_
  · rintro v _ (prepared | -)
    · exact .prepared prepared
    · rw [resultsOf_bind_ok]
      exact .executed
  · rintro v x (prepared | executed | ⟨-, ⟨⟩⟩)
    · exact .prepared prepared
    · exact .executed executed
  · rintro v reply x reads more
    generalize e : (Except.ok reply : Attempt QueryReply) = r at reads
    cases reads with
    | prepared => cases e
    | executed =>
      rw [resultsOf_bind_ok] at e
      exact .looked (ofValue_of_resultsOf e.symm) more

theorem fails_live (s : Session) (serial : Nat) : Fails (·.isBeside = true) (s.live serial) :=
  .ite (.ok _) (.error rfl)

namespace Prepared

theorem ends_execute_accounted (vs : List Value) (scope : Option ScopeId) (p : Prepared) (c : Client ω) :
    Ends (execute env (.list vs) scope) (p, c) fun r s =>
      Overlong vs r ∨ StatementAccounted env c r s.2 := by
  refine .object (.heldOfAttempt (fun batch _ => .actSession ?_) fun f hf => ?_)
  · refine .heldOfAttempt (fun _ _ => ?_) fun f hf => .inr (.beside (fails_live _ _ f hf))
    refine .act (ends_send_accounted QueryReply.fails_ofValue _ scope c) ?_ ?_
    · exact fun _ c' h => .inr (accounted_withFirst h)
    · exact fun _ c' h => .inr (accounted_withFirst h)
  · obtain beside | ⟨rfl, long⟩ := Parameter.fails_build p.columns vs f hf
    · exact .inr (.beside beside)
    · exact .inl ⟨rfl, long⟩

/-- The closing of a statement fails in a failure that concerns no data. -/
theorem ends_close_beside (p : Prepared) (c : Client ω) :
    Ends (close env) (p, c) fun r _ => ∀ f, r = .error f → f.isBeside = true := by
  refine .object (.ite (fun _ => .pure fun _ h => nomatch h) fun _ => .actSession ?_)
  refine .heldOfAttempt (fun _ _ => .act (ends_send_noData _ none c) ?_ ?_) fun f hf => ?_
  · exact fun _ c' _ f h => nomatch h
  · exact fun f c' h => h
  · rintro _ ⟨⟩
    exact fails_live _ _ f hf

end Prepared

namespace Statement

open Client (requesting)

theorem ends_simple_accounted (sql : String) (scope : Option ScopeId) (c : Client ω) :
    Ends (simple env sql scope) c (StatementAccounted env c) := by
  refine .session (.ofAttempt (fun _ _ => ?_) fun f hf => .beside (fails_live _ _ f hf))
  exact (ends_send_accounted QueryReply.fails_ofValue _ scope c).further fun r c' => accounted_withFirst

theorem ends_prepare_accounted (sql : String) (scope : Option ScopeId) (c : Client ω) :
    Ends (prepare env sql scope) c fun r c' =>
      ∀ f, r = .error f → StatementAccounted env c (.error f) c' := by
  refine .session (.ofAttempt (fun _ _ => ?_) fun f hf => ?_)
  · refine (ends_send_accounted PreparedReply.fails_ofValue _ scope c).bind ?_ ?_
    · exact fun _ c' _ => .note (.pure fun _ h => nomatch h)
    · rintro f c' h _ ⟨⟩
      generalize e : (Except.error f : Attempt PreparedReply) = r at h
      cases h with
      | beside beside => cases e; exact .beside beside
      | read learns reads explained =>
        subst e
        exact .read learns (.prepared reads.symm)
          (.error ((explained f rfl).imp fun _ => .prepared))
  · rintro _ ⟨⟩
    exact .beside (fails_live _ _ f hf)

theorem ends_tidy_quiet (p : Prepared) (c : Client ω) :
    Ends (tidy env p) c fun r _ => r = .ok () := by
  refine .session (.ite (fun _ => ?_) fun _ => .pure rfl)
  refine .on (Prepared.ends_close_beside p c) ?_
  rintro (f | _) _ c₁ beside
  · have reported : f.isReported = true := (Bool.and_eq_true_iff.1 (beside f rfl)).1
    exact .ite (fun _ => rfl) fun other => absurd reported other
  · exact .pure rfl

theorem ends_once_accounted (sql : String) (vs : List Value) (scope : Option ScopeId) (c : Client ω) :
    Ends (once env sql (.list vs) scope) c fun r c' =>
      Overlong vs r ∨ StatementAccounted env c r c' := by
  have prepares : Ends (prepare env sql scope) c fun r c₁ =>
      (∀ f, r = .error f → StatementAccounted env c (.error f) c₁) ∧ c.Onward c₁ :=
    .and (ends_prepare_accounted sql scope c) (Leads.onward (path_prepare requesting_own sql scope) c)
  refine prepares.bind ?_ fun f c₁ h => .inr (h.1 f rfl)
  rintro p c₁ ⟨-, onward₁⟩
  refine .on (.and (Prepared.ends_execute_accounted vs scope p c₁)
    (Leads.heldOnward (Prepared.path_execute requesting_own (.list vs) scope) (p, c₁))) ?_
  rintro executed p' c₂ ⟨accounted, -⟩
  -- whatever is done about the statement afterwards, what was learnt stays learnt
  have whole {c₃ : Client ω} (onward : c₂.Onward c₃) :
      Overlong vs executed ∨ StatementAccounted env c executed c₃ :=
    accounted.imp_right fun told => told.within onward₁ onward
  cases executed with
  | error f =>
    refine ((ends_tidy_quiet p' c₂).and (Leads.onward (path_tidy requesting_own p') c₂)).bind ?_ ?_
    · rintro _ c₃ ⟨-, onward⟩
      exact .throw (whole onward)
    · rintro _ c₃ ⟨⟨⟩, -⟩
  | ok reply =>
    refine .on (.and (Prepared.ends_close_beside p' c₂)
      (Leads.heldOnward (Prepared.path_close requesting_own) (p', c₂))) ?_
    rintro (f | _) _ c₃ ⟨beside, onward⟩
    · exact .inr (.beside (beside f rfl))
    · exact .pure (whole onward)

theorem ends_run_accounted (sql : String) (vs : List Value) (scope : Option ScopeId) (c : Client ω) :
    Ends (run env sql (.list vs) scope) c fun r c' =>
      Overlong vs r ∨ StatementAccounted env c r c' :=
  .ite (fun _ => ends_once_accounted sql vs scope c) fun _ =>
    (ends_simple_accounted sql scope c).mono fun _ _ => .inr

end Statement

namespace Connection

theorem ends_ensureOpen (c : Client ω) :
    Ends ensureOpen c fun r c' => c' = c ∧ ∀ f, r = .error f → f.isBeside = true := by
  refine .session (.ite (fun _ => .throw ⟨rfl, ?_⟩) fun _ => .pure ⟨rfl, fun _ h => nomatch h⟩)
  rintro _ ⟨⟩
  rfl

theorem ends_execute_accounted {sql : String} (plain : Import.isImport sql.toList = false)
    (vs : List Value) (scope : Option ScopeId) (c : Client ω) :
    Ends (execute env sql (.list vs) scope) c fun r c' => Overlong vs r ∨
      Accounted env.codec c.session.compressing (StatementReads QueryReply.firstRowCount)
        (StatementMisfit QueryReply.CountMisfit) c r c' := by
  refine (ends_ensureOpen c).bind ?_ fun f c₁ h => .inr (.beside (h.2 f rfl))
  rintro _ _ ⟨rfl, -⟩
  refine .session (.ite (fun other => absurd plain (by simp [other])) fun _ => ?_)
  refine (Statement.ends_run_accounted sql vs scope _).further fun r c' h => ?_
  exact h.imp .bind fun told => accounted_looked told QueryReply.fails_firstRowCount

/-- What a query reads: the first result set, in a cursor. -/
def QueryReads (v : Value) (r : Attempt Cursor) : Prop :=
  ∃ s, StatementReads (fun reply => reply.firstResultSet.map (Cursor.ofPage s)) v r

theorem ends_query_accounted (sql : String) (vs : List Value) (scope : Option ScopeId) (c : Client ω) :
    Ends (query env sql (.list vs) scope) c fun r c' => Overlong vs r ∨
      Accounted env.codec c.session.compressing QueryReads (StatementMisfit QueryReply.SetMisfit)
        c r c' := by
  refine (ends_ensureOpen c).bind ?_ fun f c₁ h => .inr (.beside (h.2 f rfl))
  rintro _ c ⟨rfl, -⟩
  let Told (r : Attempt Cursor) (c₁ : Client ω) : Prop := Overlong vs r ∨
    Accounted env.codec c.session.compressing QueryReads (StatementMisfit QueryReply.SetMisfit) c r c₁
  have opened {r : Attempt QueryReply} {c₁ : Client ω}
      (h : Overlong vs r ∨ StatementAccounted env c r c₁) :
      Told (r >>= fun reply => reply.firstResultSet.map (Cursor.ofPage c₁.session)) c₁ :=
    h.imp .bind fun told =>
      (accounted_looked told fun reply => reply.fails_firstResultSet.map _).imp fun _ reads => ⟨_, reads⟩
  refine (Statement.ends_run_accounted sql vs scope c).bind ?_ fun f c₁ h => opened h
  intro reply c₁ h
  have reads : Told (reply.firstResultSet.map (Cursor.ofPage c₁.session)) c₁ := opened h
  refine .session (.ofAttempt (fun page hp => .pure ?_) fun f hf => ?_)
  · rwa [hp] at reads
  · rwa [hf] at reads

end Connection

/-! ### Cursors -/

namespace Cursor

open Held
open Client (Learns)

/-- A cursor went on with its client: its columns are what they were, and its page is the one it
had or was read from data on the way. -/
structure Sourced (env : Environment ω) (s t : Cursor × Client ω) : Prop where
  onward : s.2.Onward t.2
  columns : t.1.columns = s.1.columns
  page : t.1.page = s.1.page ∨ ∃ v page, s.2.Learns env.codec s.2.session.compressing t.2 v ∧
    ResultPage.ofValue v = .ok page ∧ t.1.page = page.data

variable {s t u : Cursor × Client ω}

theorem Sourced.trans (h : Sourced env s t) (h' : Sourced env t u) : Sourced env s u := by
  refine ⟨trans_of Onward h.onward h'.onward, h'.columns.trans h.columns, ?_⟩
  obtain same | ⟨v, page, learns, read, e⟩ := h'.page
  · obtain same' | ⟨v, page, learns, read, e⟩ := h.page
    · exact .inl (same.trans same')
    · refine .inr ⟨v, page, learns.along (List.prefix_refl _) h'.onward.replies, read, ?_⟩
      rw [same, e]
  · rw [h.onward.compressing] at learns
    exact .inr ⟨v, page, learns.along h.onward.replies (List.prefix_refl _), read, e⟩

instance : IsPreorder (Cursor × Client ω) (Sourced env) where
  refl s := ⟨refl_of Onward s.2, rfl, .inl rfl⟩
  trans _ _ _ := Sourced.trans

/-- What a cursor yields: something, or a failure that concerns no data, or one that tells of data;
or else a fault, and then a page that it fetched does not fit, or a cell of the row at hand. -/
inductive Yields (env : Environment ω) (s : Cursor × Client ω) :
    Attempt α → Cursor × Client ω → Prop
  | given {a t} : Yields env s (.ok a) t
  | told {f t} (h : f.isReported = true) : Yields env s (.error f) t
  | unfetched {v x t} (learns : s.2.Learns env.codec s.2.session.compressing t.2 v)
      (misfit : Escaping ResultPage.Misfit v x) : Yields env s (.error (.fault x)) t
  | undelivered {x t} (sourced : Sourced env s t) (misfit : t.1.CellMisfit x) :
      Yields env s (.error (.fault x)) t

theorem Yields.after {r : Attempt α} (h : Sourced env s t) (yields : Yields env t r u) :
    Yields env s r u := by
  cases yields with
  | given => exact .given
  | told reported => exact .told reported
  | unfetched learns misfit =>
    rw [h.onward.compressing] at learns
    exact .unfetched (learns.along h.onward.replies (List.prefix_refl _)) misfit
  | undelivered sourced misfit => exact .undelivered (h.trans sourced) misfit

theorem Yields.cast {f : Failure} (h : Yields env s (.error f : Attempt α) t) :
    Yields env s (.error f : Attempt β) t := by
  cases h with
  | told reported => exact .told reported
  | unfetched learns misfit => exact .unfetched learns misfit
  | undelivered sourced misfit => exact .undelivered sourced misfit

theorem isReported_of_tells {f : Failure} (h : f.tellsOfData = true) : f.isReported = true := by
  cases f with
  | fault x => cases h
  | _ => rfl

theorem isReported_of_beside {f : Failure} (h : f.isBeside = true) : f.isReported = true :=
  (Bool.and_eq_true_iff.1 h).1

theorem ends_fetch_yields (x : Cursor) (c : Client ω) :
    Ends (fetch env) (x, c) fun r t => Yields env (x, c) r t ∧ Sourced env (x, c) t := by
  have still {c' : Client ω} (onward : c.Onward c') : Sourced env (x, c) (x, c') :=
    ⟨onward, rfl, .inl rfl⟩
  refine .object (.actSession (.heldOfAttempt (fun _ _ => ?_) fun f hf => ?_))
  · refine .act (.and (ends_send_accounted ResultPage.fails_ofValue _ none c)
      (onward_send _ _ _ c)) ?_ ?_
    · rintro page c₁ ⟨accounted, onward⟩
      generalize e : (Except.ok page : Attempt ResultPage) = r at accounted
      cases accounted with
      | beside => cases e
      | read learns reads =>
        refine .ite (fun _ => .bind (R := fun r t => (∃ f, r = .error f ∧ f.isReported = true) ∧
          t = (x, c₁)) ?_ ?_ ?_) fun _ => ?_
        · exact .throw ⟨⟨_, rfl, rfl⟩, rfl⟩
        · rintro _ t ⟨⟨_, ⟨⟩, -⟩, -⟩
        · rintro _ t ⟨⟨_, ⟨⟩, reported⟩, rfl⟩
          exact ⟨.told reported, still onward⟩
        · have read : ResultPage.ofValue _ = .ok page := judged_eq_ok (reads.symm.trans e.symm)
          -- a note is no reply
          exact .actNote ⟨.given, ⟨⟨onward.compressing, onward.replies⟩, rfl,
            .inr ⟨_, page, learns, read, rfl⟩⟩⟩
    · rintro f c₁ ⟨accounted, onward⟩
      refine ⟨?_, still onward⟩
      generalize e : (Except.error f : Attempt ResultPage) = r at accounted
      cases accounted with
      | beside h =>
        cases e
        exact .told (isReported_of_beside h)
      | read learns _ explained =>
        obtain told | ⟨x, rfl, misfit⟩ := explained f e.symm
        · exact .told (isReported_of_tells told)
        · exact .unfetched learns misfit
  · exact ⟨.told (isReported_of_beside (fails_live _ _ f hf)), still (refl_of Onward c)⟩

theorem ends_nextInto_yields (x : Cursor) (c : Client ω) (row : List Value)
    (known : row.length ≤ x.columns.length) :
    Ends (nextInto env row) (x, c) fun r t => ∃ vs result, r = .ok (vs, result) ∧
      Yields env (x, c) result t ∧ Sourced env (x, c) t := by
  have here : Sourced env (x, c) (x, c) := refl_of (Sourced env) _
  refine .object (.ite (fun _ => .pure ⟨_, _, rfl, .given, here⟩) fun _ => ?_)
  have turns : Ends (if x.needsPage then fetch env else pure ()) (x, c) fun r t =>
      Yields env (x, c) r t ∧ Sourced env (x, c) t :=
    .ite (fun _ => ends_fetch_yields x c) fun _ => .pure ⟨.given, here⟩
  refine .heldAttempt turns ?_
  rintro (f | _) ⟨x', c'⟩ ⟨yields, sourced⟩
  · exact .pure ⟨_, _, rfl, yields.cast, sourced⟩
  · refine .object ?_
    have fits : 0 + row.length ≤ x'.columns.length := by
      rw [sourced.columns, Nat.zero_add]
      exact known
    have fills := x'.fails_fill row 0 fits
    generalize x'.fill 0 row = out at fills ⊢
    rcases out with ⟨vs, f | _⟩
    · refine .pure ⟨vs, _, rfl, ?_, sourced⟩
      obtain told | ⟨y, rfl, misfit⟩ := fills f rfl
      · exact .told (isReported_of_tells told)
      · exact .undelivered sourced misfit
    · exact .change (.pure ⟨vs, _, rfl, .given, ⟨sourced.onward, sourced.columns, sourced.page⟩⟩)

theorem ends_next_yields (s : Cursor × Client ω) :
    Ends (next env) s fun r t => Yields env s r t ∧ Sourced env s t := by
  have wide : (s.1.columns.map fun _ => Value.null).length ≤ s.1.columns.length :=
    Nat.le_of_eq (List.length_map _)
  refine .object ((ends_nextInto_yields s.1 s.2 _ wide).bind ?_ ?_)
  · rintro _ t ⟨vs, result, ⟨⟩, yields, sourced⟩
    refine .heldOfAttempt (fun more _ => .pure ⟨.given, sourced⟩) fun f hf => ⟨?_, sourced⟩
    subst hf
    exact yields.cast
  · rintro f t ⟨_, _, ⟨⟩, -⟩

theorem ends_upTo_yields (n : Nat) (s : Cursor × Client ω) :
    Ends (upTo env n) s fun r t => Yields env s r t := by
  induction n generalizing s with
  | zero => exact .pure .given
  | succ n ih =>
    refine (ends_next_yields s).bind ?_ fun f t h => h.1.cast
    rintro (_ | row) t ⟨-, sourced⟩
    · exact .pure .given
    · -- what the rest yields from where the first row left the cursor, it yields from here
      refine ((ih t).mono fun r u yields => yields.after sourced).bind ?_ fun f u h => h.cast
      exact fun rows u _ => .pure .given

theorem ends_rest_yields (s : Cursor × Client ω) :
    Ends (rest env) s fun r t => Yields env s r t := .object (ends_upTo_yields _ s)

end Cursor

/-! ### Any replies -/

/-- Whatever replies a client meets, each operation gives what a reply says, or fails as it is told,
or ends in a fault for which the data of a reply account, or a value that was given. -/
structure RepliesAccounted (env : Environment ω) (c : Client ω) : Prop where
  login : ∀ scope, Ends (Session.login env scope) c (Accounted env.codec false LoginReads LoginMisfit c)
  send : ∀ fields (kind : RecordKind) scope,
    Ends (Session.send env (.object fields) (fun v => kind.read v) scope) c
      (Accounted env.codec c.session.compressing (fun v r => r = judged (kind.read v))
        (Escaping fun v => kind.Misfit v) c)
  execute : ∀ sql vs scope, Import.isImport sql.toList = false →
    Ends (Connection.execute env sql (.list vs) scope) c fun r c' => Overlong vs r ∨
      Accounted env.codec c.session.compressing (StatementReads QueryReply.firstRowCount)
        (StatementMisfit QueryReply.CountMisfit) c r c'
  query : ∀ sql vs scope, Ends (Connection.query env sql (.list vs) scope) c fun r c' =>
    Overlong vs r ∨ Accounted env.codec c.session.compressing Connection.QueryReads
      (StatementMisfit QueryReply.SetMisfit) c r c'
  iterate : ∀ x, Ends (Cursor.rest env) (x, c) (Cursor.Yields env (x, c))

/-- A failure that is not reported comes from a number, a list or an object of a reply that is none,
or from a decimal that is too long, and from nothing else. -/
theorem replies_accounted (env : Environment ω) (c : Client ω) : RepliesAccounted env c where
  login scope := ends_login_accounted scope c
  send fields kind scope := ends_send_accounted kind.fails_read fields scope c
  execute _ vs scope plain := Connection.ends_execute_accounted plain vs scope c
  query sql vs scope := Connection.ends_query_accounted sql vs scope c
  iterate x := Cursor.ends_rest_yields (x, c)

/-- The fault in which an attempt ended, if it did. -/
def faultOf (r : Attempt α) : Option Fault :=
  match r with
  | .error (.fault x) => some x
  | _ => none

/-- Faults do reach the caller: of a record whose parameters are no object, of a row count that is no
number, and of a cell that is too great for its column. -/
theorem faults_reach_caller :
    let env := Script.cannedEnvironment
    let loggedIn (reply : List String) : Client (List Bytes) := (Session.login env none
      (Script.onChannel Script.cannedConfig none
        (Script.cannedLogin [Script.cannedReply reply]) [])).2
    let prepared := Session.send env (Command.createPrepared (.text "SELECT 1")) PreparedReply.ofValue
      none (loggedIn ["\x7b\"parameterData\": [1]\x7d"])
    let counted := Connection.execute env "DELETE FROM t" (.list []) none
      (loggedIn ["\x7b\"numResults\": 1, ", "\"results\": [\x7b\"rowCount\": \"x\"\x7d]\x7d"])
    let listed := (do
      let x ← Connection.query env "SELECT n FROM t" (.list []) none
      let (rows, _) ← (Cursor.rest env).on x
      Action.ofAttempt rows : Action (List Bytes) (List (List Value)))
      (loggedIn ["\x7b\"numResults\": 1, ", "\"results\": [\x7b\"resultType\": \"resultSet\", ",
        "\"resultSet\": \x7b\"numRows\": 1, ", "\"numRowsInMessage\": 1, ",
        "\"columns\": [\x7b\"name\": \"N\", ", "\"dataType\": \x7b\"type\": \"DECIMAL\", ",
        "\"scale\": 0\x7d\x7d], ", "\"data\": [[1e999]]\x7d\x7d]\x7d"])
    faultOf prepared.1 = some .noMember ∧ faultOf counted.1 = some .badValue ∧
      faultOf listed.1 = some .tooGreat := by
  decide +kernel

end ExaWire
