/-
ExaWire/Proofs/Session/Path.lean

Whatever a caller does, the client takes a path of few kinds of steps: it sends a
request, it closes its session, or it does something that concerns neither session
nor channel.  A conduct tells which requests it sends, and whether it may close; the
requests that the library makes by itself are listed by `Command.IsOwn`.

So what holds of every step holds of every operation, and an invariant of the
session needs a proof for the steps alone.
-/
import ExaWire.Proofs.Session.Exchange
import ExaWire.Script.Dialogue

namespace ExaWire

open Network

/-- What a client may do with its session. -/
structure Conduct where
  /-- the requests that it may send -/
  sends : Value → Prop
  /-- whether it may close the session -/
  closes : Prop

variable {ω o α β : Type} {env : Environment ω} {P : Conduct}

/-- The requests that the library makes by itself once a session is open. -/
inductive Command.IsOwn : Value → Prop
  | execute (sql maxRows : Value) : IsOwn (execute sql maxRows)
  | createPrepared (sql : Value) : IsOwn (createPrepared sql)
  | executePrepared (handle : Value) (columns : List Column) (numRows data maxRows : Value) :
    IsOwn (executePrepared handle columns numRows data maxRows)
  | closePrepared (handle : Value) : IsOwn (closePrepared handle)
  | fetch (handle position bytes : Value) : IsOwn (fetch handle position bytes)
  | closeResultSet (handles : List Value) : IsOwn (closeResultSet handles)

namespace Client

/-- A step of a client. -/
inductive Step (env : Environment ω) (P : Conduct) (c : Client ω) : Client ω → Prop
  | aside {c'} (h : c.Steady c') (wire : c'.wire = c.wire) : Step env P c c'
  | send {α : Type} {request : Value} (h : P.sends request) (read : Value → Attempt α)
      (scope : Option ScopeId) : Step env P c (Session.send env request read scope c).2
  | close (h : P.closes) : Step env P c (Session.close env c).2

/-- Steps, one after the other. -/
abbrev Path (env : Environment ω) (P : Conduct) : Client ω → Client ω → Prop :=
  Relation.ReflTransGen (Step env P)

theorem Path.aside {c c' : Client ω} (h : c.Steady c') (wire : c'.wire = c.wire) :
    Path env P c c' := .single (.aside h wire)

end Client

open Client (Path)

/-! ### Actions of a client -/

namespace Action

theorem path_update {f : Client ω → Client ω} (h : ∀ c : Client ω, c.Steady (f c))
    (wire : ∀ c, (f c).wire = c.wire) : Leads (Path env P) (update f) := fun c =>
  .aside (h c) (wire c)

theorem path_note (level : Level) (text : String) : Leads (Path env P) (note level text : Action ω _) :=
  path_update (fun c => c.steady_annotate _) fun _ => rfl

theorem path_session : Leads (Path env P) (session : Action ω Session) := fun _ => .refl

theorem path_ofAttempt (a : Attempt α) : Leads (Path env P) (ofAttempt a : Action ω α) := fun _ => .refl

theorem path_attempt {a : Action ω α} (h : Leads (Path env P) a) : Leads (Path env P) (attempt a) := h

theorem path_guarded {body : Action ω α} {leave : Action ω Unit} (hb : Leads (Path env P) body)
    (hl : Leads (Path env P) leave) : Leads (Path env P) (guarded body leave) :=
  .bind (path_attempt hb) fun _ => .bind hl fun _ => path_ofAttempt _

end Action

namespace Session

theorem path_send {request : Value} (h : P.sends request) (read : Value → Attempt α)
    (scope : Option ScopeId) : Leads (Path env P) (send env request read scope) := fun _ =>
  .single (.send h read scope)

theorem path_close (h : P.closes) : Leads (Path env P) (close env) := fun _ => .single (.close h)

end Session

/-! ### Objects beside a client -/

namespace Held

open ExaWire.Action

/-- The path of a client beside an object. -/
def Path (env : Environment ω) (P : Conduct) (s t : o × Client ω) : Prop :=
  Client.Path env P s.2 t.2

instance : IsPreorder (o × Client ω) (Path env P) where
  refl _ := Relation.ReflTransGen.refl
  trans _ _ _ h h' := Relation.ReflTransGen.trans h h'

theorem path_act {a : Action ω α} (h : Leads (Client.Path env P) a) :
    Leads (Path env P) (act a : Held o ω α) := fun s => h s.2

theorem path_object : Leads (Path env P) (object : Held o ω o) := fun _ => .refl

theorem path_change (f : o → o) : Leads (Path env P) (change f : Held o ω Unit) := fun _ => .refl

theorem path_ofAttempt (a : Attempt α) : Leads (Path env P) (ofAttempt a : Held o ω α) := fun _ => .refl

theorem path_attempt {a : Held o ω α} (h : Leads (Path env P) a) : Leads (Path env P) (attempt a) := h

theorem path_guarded {body : Held o ω α} {leave : Bool → Held o ω Unit}
    (hb : Leads (Path env P) body) (hl : ∀ failed, Leads (Path env P) (leave failed)) :
    Leads (Path env P) (guarded body leave) :=
  .bind (path_attempt hb) fun _ => .bind (hl _) fun _ => path_ofAttempt _

theorem path_on (x : o) {a : Held o ω α} (h : Leads (Path env P) a) :
    Leads (Client.Path env P) (a.on x) := fun c => h (x, c)

end Held

variable (hP : ∀ request, Command.IsOwn request → P.sends request)
include hP

namespace Cursor

open Held

theorem path_fetch : Leads (Held.Path env P) (fetch env) := by
  refine .bind path_object fun c => .bind (path_act Action.path_session) fun s => ?_
  refine .bind (path_ofAttempt _) fun _ => .bind (path_act (Session.path_send ?_ _ _)) fun page => ?_
  · exact hP _ (.fetch ..)
  · -- both branches of the check for an empty page go on here
    have turns : Leads (Held.Path env P) (do
        act (Action.note .trace ("Fetched " ++ toString page.numRows ++ " rows from result set " ++
          toString c.handle ++ " with fetch size " ++ toString c.fetchBytes ++
          " bytes at start pos " ++ toString c.rowPointer))
        change (turnTo page)) :=
      .bind (path_act (Action.path_note _ _)) fun _ => path_change _
    exact .ite (.bind (.throw _) fun _ => turns) turns

theorem path_nextInto (row : List Value) : Leads (Held.Path env P) (nextInto env row) := by
  refine .bind path_object fun c => .ite (.pure _) ?_
  refine .bind (path_attempt (.ite (path_fetch hP) (.pure _))) fun fetched => ?_
  cases fetched with
  | error f => exact .pure _
  | ok _ =>
    refine .bind path_object fun c => ?_
    rcases c.fill 0 row with ⟨row, _ | _⟩
    · exact .pure _
    · exact .bind (path_change _) fun _ => .pure _

theorem path_next : Leads (Held.Path env P) (next env) := by
  refine .bind path_object fun c => .bind (path_nextInto hP _) fun _ => ?_
  exact .bind (path_ofAttempt _) fun _ => .pure _

theorem path_upTo (n : Nat) : Leads (Held.Path env P) (upTo env n) := by
  induction n with
  | zero => exact .pure _
  | succ n ih =>
    refine .bind (path_next hP) fun row => ?_
    cases row with
    | none => exact .pure _
    | some row => exact .bind ih fun _ => .pure _

theorem path_rest : Leads (Held.Path env P) (rest env) :=
  .bind path_object fun _ => path_upTo hP _

theorem path_close : Leads (Held.Path env P) (close env) := by
  refine .bind path_object fun c => .ite (.pure _) ?_
  refine .bind (path_change _) fun _ => .ite (.pure _) ?_
  refine .bind (path_act Action.path_session) fun s => .bind (path_ofAttempt _) fun _ => ?_
  exact path_act (Session.path_send (hP _ (.closeResultSet ..)) _ _)

end Cursor

namespace Prepared

open Held

theorem path_execute (values : Value) (scope : Option ScopeId) :
    Leads (Held.Path env P) (execute env values scope) := by
  refine .bind path_object fun p => .bind (path_ofAttempt _) fun batch => ?_
  refine .bind (path_act Action.path_session) fun s => .bind (path_ofAttempt _) fun _ => ?_
  refine .bind (path_act (Session.path_send ?_ _ _)) fun reply => path_ofAttempt _
  exact hP _ (.executePrepared ..)

theorem path_query (values : Value) (scope : Option ScopeId) :
    Leads (Held.Path env P) (query env values scope) := by
  refine .bind (path_execute hP values scope) fun reply => ?_
  refine .bind (path_act Action.path_session) fun s => .bind path_object fun p => ?_
  exact .bind (path_ofAttempt _) fun _ => .bind (path_ofAttempt _) fun _ => .pure _

theorem path_close : Leads (Held.Path env P) (close env) := by
  refine .bind path_object fun p => .ite (.pure _) ?_
  refine .bind (path_act Action.path_session) fun s => .bind (path_ofAttempt _) fun _ => ?_
  refine .bind (path_act (Session.path_send ?_ _ _)) fun _ => path_change _
  exact hP _ (.closePrepared ..)

end Prepared

/-! ### Statements, transactions, connections -/

namespace Statement

open ExaWire.Action

theorem path_simple (sql : String) (scope : Option ScopeId) :
    Leads (Path env P) (simple env sql scope) := by
  refine .bind path_session fun s => .bind (path_ofAttempt _) fun _ => ?_
  exact .bind (Session.path_send (hP _ (.execute ..)) _ _) fun _ => path_ofAttempt _

theorem path_prepare (sql : String) (scope : Option ScopeId) :
    Leads (Path env P) (prepare env sql scope) := by
  refine .bind path_session fun s => .bind (path_ofAttempt _) fun _ => ?_
  refine .bind (Session.path_send (hP _ (.createPrepared ..)) _ _) fun reply => ?_
  exact .bind (path_note _ _) fun _ => .pure _

theorem path_tidy (p : Prepared) : Leads (Path env P) (tidy env p) := by
  refine .bind path_session fun s => .ite (.bind (Held.path_on p (Prepared.path_close hP)) ?_) (.pure _)
  rintro ⟨_ | _, _⟩
  · exact .ite (path_note _ _) (.throw _)
  · exact .pure _

theorem path_once (sql : String) (values : Value) (scope : Option ScopeId) :
    Leads (Path env P) (once env sql values scope) := by
  refine .bind (path_prepare hP sql scope) fun p => ?_
  refine .bind (Held.path_on p (Prepared.path_execute hP values scope)) ?_
  -- a statement that failed is tidied up, one that succeeded is closed
  rintro ⟨f | reply, p⟩
  · exact .bind (path_tidy hP p) fun _ => .throw _
  · refine .bind (Held.path_on p (Prepared.path_close hP)) fun _ => ?_
    exact .bind (path_ofAttempt _) fun _ => .pure _

theorem path_run (sql : String) (values : Value) (scope : Option ScopeId) :
    Leads (Path env P) (run env sql values scope) :=
  .ite (path_once hP sql values scope) (path_simple hP sql scope)

end Statement

namespace Transaction

open Held

theorem path_finish (sql : String) : Leads (Held.Path env P) (finish env sql) := by
  refine .bind path_object fun t => ?_
  cases t.serial with
  | none => exact .throw _
  | some serial =>
    refine .bind (path_act Action.path_session) fun s => .bind (path_ofAttempt _) fun _ => ?_
    refine .bind (path_change _) fun _ => ?_
    exact .bind (path_act (Statement.path_simple hP sql none)) fun _ => .pure _

theorem path_leave (failed : Bool) : Leads (Held.Path env P) (leave env failed) := by
  refine .bind path_object fun t => .ite (.pure _) ?_
  exact .ite (path_finish hP _) (path_finish hP _)

end Transaction

omit hP in
theorem Client.aside_advance (step : Import.Progress → Import.Progress) (c : Client ω) :
    Path env P c (c.advance step) := .aside (c.steady_advance step) (c.wire_advance step)

namespace Import

open ExaWire.Action

omit hP

theorem path_record {hs : List Happening} (h : hs.filter Happening.ofChannel = []) :
    Leads (Path env P) (update (Client.record hs) : Action ω Unit) :=
  path_update (fun c => c.steady_of_happenings rfl rfl rfl h) fun _ => rfl

theorem path_atEndpoint (step : Endpoint → Attempt α × Endpoint × List Note) :
    Leads (Path env P) (atEndpoint step : Action ω α) := by
  intro c
  unfold Ends atEndpoint
  split
  · exact .refl
  · exact .aside ⟨rfl, rfl, by simp [Client.trace, Client.annotate]⟩ rfl

theorem closeEndpoint_of_none {c : Client ω} (h : c.endpoint = none) :
    (closeEndpoint : Action ω Unit) c = (.ok (), c) := by
  cases c
  cases h
  rfl

theorem closeEndpoint_of_some {c : Client ω} {e : Endpoint} (h : c.endpoint = some e) :
    (closeEndpoint : Action ω Unit) c =
      (.ok (), ({ c with endpoint := some e.close.1 }.record (e.close.2.1.map .network)).annotate
        e.close.2.2) := by
  cases c
  cases h
  rfl

theorem path_closeEndpoint : Leads (Path env P) (closeEndpoint : Action ω Unit) := by
  intro c
  unfold Ends
  cases h : c.endpoint with
  | none =>
    rw [closeEndpoint_of_none h]
  | some e =>
    rw [closeEndpoint_of_some h]
    exact .aside (c.steady_of_happenings rfl rfl rfl (Client.filter_network _)) rfl

theorem path_candidates (spec : String) :
    Leads (Path env P) (candidates env spec : Action ω (List String)) := fun _ => .refl

theorem path_dial (hosts : List String) (port : Int) : Leads (Path env P) (dial env hosts port) := by
  intro c
  unfold Ends dial
  rcases Endpoint.dial env.directory c.dials hosts port with ⟨_ | _, events⟩
  · exact .aside (c.steady_of_happenings rfl rfl rfl (Client.filter_network _)) rfl
  · exact .aside (c.steady_of_happenings rfl rfl rfl (Client.filter_network _)) rfl

theorem path_supervise (errand : Errand) {execute : Action ω α} (h : Leads (Path env P) execute) :
    Leads (Path env P) (supervise errand execute) := by
  have advance (step : Progress → Progress) :
      Leads (Path env P) (update (Client.advance step) : Action ω Unit) := Client.aside_advance step
  have still (errand : Option Errand) :
      Leads (Path env P) (update fun c => { c with errand } : Action ω Unit) := fun c =>
    .aside (c.steady_of_happenings rfl rfl (c.happenings.append_nil).symm rfl) rfl
  refine .bind (still _) fun _ => .bind (path_attempt h) fun result => ?_
  refine .bind (advance _) fun _ => .bind (advance _) fun _ => .bind .get fun c => ?_
  refine .bind (still _) fun _ => ?_
  cases c.errand.bind (·.verdict) with
  | some f => exact .throw _
  | none => exact path_ofAttempt _

theorem path_load (job : Job) (spec : String) (port : Int) (scope : ScopeId)
    (files : List LocalFile) {execute : String → ScopeId → Action ω α}
    (h : ∀ sql scope, Leads (Path env P) (execute sql scope)) :
    Leads (Path env P) (load env job spec port scope files execute) := by
  refine .bind (path_candidates spec) fun hosts => .bind (path_dial hosts port) fun _ => ?_
  refine path_guarded ?_ path_closeEndpoint
  refine .bind (path_atEndpoint _) fun _ => .bind .get fun c => .bind (path_ofAttempt _) fun job => ?_
  exact .bind (path_note _ _) fun _ => path_supervise _ (h _ _)

theorem path_run (spec : String) (port : Int) (sql : String)
    {execute : String → ScopeId → Action ω α} (parent : Option ScopeId)
    (h : ∀ sql scope, Leads (Path env P) (execute sql scope)) :
    Leads (Path env P) (run env spec port sql execute parent) := by
  refine .bind (path_ofAttempt _) fun job => .bind (fun c => ?_) fun scope => ?_
  · exact .aside ⟨rfl, rfl, by simp [Client.trace]⟩ rfl
  · rcases openFiles env job.paths with ⟨opened, result⟩
    refine .bind (path_record ?_) fun _ => .bind (path_attempt ?_) fun result' => ?_
    · exact List.filter_eq_nil_iff.2 (List.forall_mem_map.2 fun _ _ => Bool.false_ne_true)
    · exact .bind (path_ofAttempt _) fun _ => path_load job spec port scope _ h
    · refine .bind (path_record ?_) fun _ => path_ofAttempt _
      exact List.filter_eq_nil_iff.2 (List.forall_mem_map.2 fun _ _ => Bool.false_ne_true)

end Import

namespace Connection

open ExaWire.Action

omit hP in
theorem ensureOpen_apply (c : Client ω) : (ensureOpen : Action ω Unit) c =
    (if c.session.isClosed then .error Session.closedFailure else .ok (), c) := by
  show (if c.session.isClosed then throw Session.closedFailure else pure () : Action ω Unit) c = _
  split
  · rfl
  · rfl

omit hP in
theorem path_ensureOpen : Leads (Path env P) (ensureOpen : Action ω Unit) :=
  .bind path_session fun _ => .ite (.throw _) (.pure _)

theorem path_execute (sql : String) (values : Value) (scope : Option ScopeId) :
    Leads (Path env P) (execute env sql values scope) := by
  refine .bind path_ensureOpen fun _ => .bind path_session fun s => ?_
  refine .ite (.bind (Import.path_run _ _ _ _ fun statement scope => ?_) fun _ => path_ofAttempt _)
    (.bind (Statement.path_run hP sql values scope) fun _ => path_ofAttempt _)
  exact Statement.path_run hP statement values (some scope)

theorem path_query (sql : String) (values : Value) (scope : Option ScopeId) :
    Leads (Path env P) (query env sql values scope) := by
  refine .bind path_ensureOpen fun _ => .bind (Statement.path_run hP sql values scope) fun _ => ?_
  exact .bind path_session fun _ => .bind (path_ofAttempt _) fun _ => .pure _

theorem path_prepare (sql : String) (scope : Option ScopeId) :
    Leads (Path env P) (prepare env sql scope) :=
  .bind path_ensureOpen fun _ => Statement.path_prepare hP sql scope

omit hP in
theorem path_begin : Leads (Path env P) (begin : Action ω Transaction) :=
  .bind path_ensureOpen fun _ => .bind path_session fun _ => path_ofAttempt _

omit hP in
theorem path_close (h : P.closes) : Leads (Path env P) (close env) := by
  refine .bind path_session fun s => .ite (.pure _) ?_
  exact .bind (path_note _ _) fun _ => Session.path_close h

end Connection

end ExaWire
