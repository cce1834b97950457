/-
ExaWire/Proofs/Session/Together.lean

Whatever a caller does with twins, it is told the same by both, and they stay twins.

An operation looks at the session and at what it holds, sends requests and reads what
comes back.  None of what it looks at depends on compression, and the requests that it
sends are the same for both clients, so every operation goes together with itself.
-/
import ExaWire.Proofs.Session.Compressed
import ExaWire.Proofs.Session.Path

namespace ExaWire

open Network Pairing

variable {ω₁ ω₂ o α β : Type} {P : Pairing ω₁ ω₂}

/-! ### Actions -/

namespace Pairing

theorem parallel_annotate (level : Level) (text : String) :
    Parallel P.Twinned (Action.note level text) (Action.note level text) :=
  parallel_twinned fun _ => parallel_note level text

/-- What is done with the session of a client beside an object goes alike for a session and its
twin. -/
theorem parallel_actSession {f₁ : Session → Held o ω₁ α} {f₂ : Session → Held o ω₂ α}
    (h : ∀ s : Session, s.Plain →
      Parallel (Beside P.Twinned) (f₁ s) (f₂ (s.twin P.compressing))) :
    Parallel (Beside P.Twinned) (Held.act Action.session >>= f₁) (Held.act Action.session >>= f₂) := by
  rintro ⟨x, c₁⟩ ⟨_, c₂⟩ ⟨rfl, kind, hc⟩
  show Agree (f₁ c₁.session) (f₂ c₂.session) (x, c₁) (x, c₂) fun _ => Beside P.Twinned
  rw [hc.session]
  exact h _ hc.plain _ _ ⟨rfl, kind, hc⟩

theorem parallel_request (request : Value) (read : Value → Attempt α) (scope : Option ScopeId) :
    Parallel P.Twinned (Session.send P.env request read scope)
      (Session.send P.twinEnv request read scope) :=
  Session.parallel_send (.same request) read scope

end Pairing

/-! ### Objects beside a client -/

namespace Cursor

open Held Parallel

theorem parallel_fetch : Parallel (Beside P.Twinned) (fetch P.env) (fetch P.twinEnv) := by
  refine .bind .object fun c => parallel_actSession fun s _ => ?_
  refine .bind (.heldOfAttempt (s.live c.serial)) fun _ => ?_
  refine .bind (.act (parallel_request _ _ _)) fun page => ?_
  -- both branches of the check for an empty page go on here
  have turns : Parallel (Beside P.Twinned)
      (do
        act (Action.note .trace ("Fetched " ++ toString page.numRows ++ " rows from result set " ++
          toString c.handle ++ " with fetch size " ++ toString c.fetchBytes ++
          " bytes at start pos " ++ toString c.rowPointer))
        change (turnTo page))
      (do
        act (Action.note .trace ("Fetched " ++ toString page.numRows ++ " rows from result set " ++
          toString c.handle ++ " with fetch size " ++ toString c.fetchBytes ++
          " bytes at start pos " ++ toString c.rowPointer))
        change (turnTo page)) :=
    .bind (.act (parallel_annotate _ _)) fun _ => .change _
  exact .ite (.bind (.throw _) fun _ => turns) turns

theorem parallel_nextInto (row : List Value) :
    Parallel (Beside P.Twinned) (nextInto P.env row) (nextInto P.twinEnv row) := by
  refine .bind .object fun c => .ite (.pure _) ?_
  refine .bind (.heldAttempt (.ite parallel_fetch (.pure _))) fun fetched => ?_
  cases fetched with
  | error f => exact .pure _
  | ok _ =>
    refine .bind .object fun c => ?_
    rcases c.fill 0 row with ⟨row, _ | _⟩
    · exact .pure _
    · exact .bind (.change _) fun _ => .pure _

theorem parallel_next : Parallel (Beside P.Twinned) (next P.env) (next P.twinEnv) := by
  refine .bind .object fun c => .bind (parallel_nextInto _) fun (row, result) => ?_
  exact .bind (.heldOfAttempt result) fun _ => .pure _

theorem parallel_upTo (n : Nat) :
    Parallel (Beside P.Twinned) (upTo P.env n) (upTo P.twinEnv n) := by
  induction n with
  | zero => exact .pure _
  | succ n ih =>
    refine .bind parallel_next fun row => ?_
    cases row with
    | none => exact .pure _
    | some row => exact .bind ih fun _ => .pure _

theorem parallel_rest : Parallel (Beside P.Twinned) (rest P.env) (rest P.twinEnv) :=
  .bind .object fun _ => parallel_upTo _

theorem parallel_close : Parallel (Beside P.Twinned) (close P.env) (close P.twinEnv) := by
  refine .bind .object fun c => .ite (.pure _) ?_
  refine .bind (.change _) fun _ => .ite (.pure _) ?_
  refine parallel_actSession fun s _ => .bind (.heldOfAttempt (s.live c.serial)) fun _ => ?_
  exact .act (parallel_request _ _ _)

end Cursor

namespace Prepared

open Held Parallel

theorem parallel_execute (values : Value) (scope : Option ScopeId) :
    Parallel (Beside P.Twinned) (execute P.env values scope) (execute P.twinEnv values scope) := by
  refine .bind .object fun p => .bind (.heldOfAttempt _) fun batch => ?_
  refine parallel_actSession fun s _ => .bind (.heldOfAttempt (s.live p.serial)) fun _ => ?_
  exact .bind (.act (parallel_request _ _ _)) fun reply => .heldOfAttempt _

theorem parallel_query (values : Value) (scope : Option ScopeId) :
    Parallel (Beside P.Twinned) (query P.env values scope) (query P.twinEnv values scope) := by
  refine .bind (parallel_execute values scope) fun reply => ?_
  refine parallel_actSession fun s _ => .bind .object fun p => ?_
  refine .bind (.heldOfAttempt (s.live p.serial)) fun _ => .bind (.heldOfAttempt _) fun page => ?_
  exact .pure (Cursor.ofPage s page)

theorem parallel_close : Parallel (Beside P.Twinned) (close P.env) (close P.twinEnv) := by
  refine .bind .object fun p => .ite (.pure _) ?_
  refine parallel_actSession fun s _ => .bind (.heldOfAttempt (s.live p.serial)) fun _ => ?_
  exact .bind (.act (parallel_request _ _ _)) fun _ => .change _

end Prepared

/-! ### Statements, transactions, connections -/

namespace Statement

open Parallel
open ExaWire.Action

theorem parallel_simple (sql : String) (scope : Option ScopeId) :
    Parallel P.Twinned (simple P.env sql scope) (simple P.twinEnv sql scope) := by
  refine parallel_session fun s _ => .bind (.ofAttempt (s.live s.serial)) fun _ => ?_
  exact .bind (parallel_request _ _ _) fun _ => .ofAttempt _

theorem parallel_prepare (sql : String) (scope : Option ScopeId) :
    Parallel P.Twinned (prepare P.env sql scope) (prepare P.twinEnv sql scope) := by
  refine parallel_session fun s _ => .bind (.ofAttempt (s.live s.serial)) fun _ => ?_
  refine .bind (parallel_request _ _ _) fun reply => ?_
  exact .bind (parallel_annotate _ _) fun _ => .pure _

theorem parallel_tidy (p : Prepared) :
    Parallel P.Twinned (tidy P.env p) (tidy P.twinEnv p) := by
  refine parallel_session fun s _ => .ite (.bind (.on p Prepared.parallel_close) ?_) (.pure _)
  rintro ⟨_ | _, _⟩
  · exact .ite (parallel_annotate _ _) (.throw _)
  · exact .pure _

theorem parallel_once (sql : String) (values : Value) (scope : Option ScopeId) :
    Parallel P.Twinned (once P.env sql values scope) (once P.twinEnv sql values scope) := by
  refine .bind (parallel_prepare sql scope) fun p => ?_
  refine .bind (.on p (Prepared.parallel_execute values scope)) ?_
  -- a statement that failed is tidied up, one that succeeded is closed
  rintro ⟨f | reply, p⟩
  · exact .bind (parallel_tidy p) fun _ => .throw _
  · refine .bind (.on p Prepared.parallel_close) fun (closed, _) => ?_
    exact .bind (.ofAttempt closed) fun _ => .pure _

theorem parallel_run (sql : String) (values : Value) (scope : Option ScopeId) :
    Parallel P.Twinned (run P.env sql values scope) (run P.twinEnv sql values scope) :=
  .ite (parallel_once sql values scope) (parallel_simple sql scope)

end Statement

namespace Transaction

open Held Parallel

theorem parallel_finish (sql : String) :
    Parallel (Beside P.Twinned) (finish P.env sql) (finish P.twinEnv sql) := by
  refine .bind .object fun t => ?_
  cases t.serial with
  | none => exact .throw _
  | some serial =>
    refine parallel_actSession fun s _ => .bind (.heldOfAttempt (s.live serial)) fun _ => ?_
    refine .bind (.change _) fun _ => ?_
    exact .bind (.act (Statement.parallel_simple sql none)) fun _ => .pure _

theorem parallel_leave (failed : Bool) :
    Parallel (Beside P.Twinned) (leave P.env failed) (leave P.twinEnv failed) := by
  refine .bind .object fun t => .ite (.pure _) ?_
  exact .ite (parallel_finish _) (parallel_finish _)

end Transaction

namespace Import

open Parallel
open ExaWire.Action

theorem parallel_advance (step : Progress → Progress) :
    Parallel P.Twinned (update (Client.advance step)) (update (Client.advance step)) :=
  parallel_twinned fun _ => .update fun _ _ h => h.advance step

theorem parallel_record {hs : List Happening} (h : ∀ x ∈ hs, x.crosses = false) :
    Parallel P.Twinned (update (Client.record hs)) (update (Client.record hs)) :=
  parallel_twinned fun _ => .update fun _ _ twins => twins.record (twins_aside h _ _)

theorem parallel_atEndpoint (step : Endpoint → Attempt α × Endpoint × List Note) :
    Parallel P.Twinned (atEndpoint step) (atEndpoint step) := by
  rintro c₁ c₂ ⟨kind, h⟩
  have endpoint : c₂.endpoint = c₁.endpoint := congrArg Client.endpoint h.twin
  unfold Agree atEndpoint
  rw [endpoint]
  cases c₁.endpoint with
  | none => exact ⟨rfl, kind, h⟩
  | some e =>
    refine ⟨rfl, kind, Twins.annotate ?_ _⟩
    exact ⟨h.plain, h.wires, h.news, congrArg (fun c => { c with endpoint := some (step e).2.1 }) h.twin⟩

theorem parallel_closeEndpoint :
    Parallel P.Twinned (closeEndpoint : Action ω₁ Unit) (closeEndpoint : Action ω₂ Unit) := by
  rintro c₁ c₂ ⟨kind, h⟩
  have endpoint : c₂.endpoint = c₁.endpoint := congrArg Client.endpoint h.twin
  unfold Agree
  cases he : c₁.endpoint with
  | none =>
    rw [closeEndpoint_of_none he, closeEndpoint_of_none (endpoint.trans he)]
    exact ⟨rfl, kind, h⟩
  | some e =>
    rw [closeEndpoint_of_some he, closeEndpoint_of_some (endpoint.trans he)]
    refine ⟨rfl, kind, Twins.annotate (Twins.record ?_ (twins_network _)) _⟩
    exact ⟨h.plain, h.wires, h.news, congrArg (fun c => { c with endpoint := some e.close.1 }) h.twin⟩

theorem parallel_candidates (spec : String) :
    Parallel P.Twinned (candidates P.env spec) (candidates P.twinEnv spec) := by
  rintro c₁ c₂ ⟨kind, h⟩
  have dials : c₂.dials = c₁.dials := congrArg Client.dials h.twin
  have order : P.twinEnv.order = P.env.order := rfl
  unfold Agree candidates
  rw [dials, order]
  exact ⟨rfl, kind, h⟩

theorem parallel_dial (hosts : List String) (port : Int) :
    Parallel P.Twinned (dial P.env hosts port) (dial P.twinEnv hosts port) := by
  rintro c₁ c₂ ⟨kind, h⟩
  have dials : c₂.dials = c₁.dials := congrArg Client.dials h.twin
  have directory : P.twinEnv.directory = P.env.directory := rfl
  have dialled (events : List Event) :
      P.Twins kind ({ c₁ with dials := c₁.dials + events.length }.record (events.map .network))
        ({ c₂ with dials := c₁.dials + events.length }.record (events.map .network)) := by
    refine Twins.record ?_ (twins_network _)
    exact ⟨h.plain, h.wires, h.news,
      congrArg (fun c => { c with dials := c₁.dials + events.length }) h.twin⟩
  unfold Agree dial
  rw [dials, directory]
  rcases Endpoint.dial P.env.directory c₁.dials hosts port with ⟨f | e, events⟩
  · exact ⟨rfl, kind, dialled events⟩
  · obtain ⟨plain, wires, news, twin⟩ := dialled events
    exact ⟨rfl, kind, plain, wires, news, congrArg (fun c => { c with endpoint := some e }) twin⟩

theorem parallel_supervise (errand : Errand) {execute₁ : Action ω₁ α} {execute₂ : Action ω₂ α}
    (h : Parallel P.Twinned execute₁ execute₂) :
    Parallel P.Twinned (supervise errand execute₁) (supervise errand execute₂) := by
  have still (errand : Option Errand) : Parallel P.Twinned
      (update fun c => { c with errand }) (update fun c => { c with errand }) :=
    parallel_twinned fun _ => .update fun _ _ h =>
      ⟨h.plain, h.wires, h.news, congrArg (fun c => { c with errand }) h.twin⟩
  refine .bind (still _) fun _ => .bind (.attempt h) fun result => ?_
  refine .bind (parallel_advance _) fun _ => .bind (parallel_advance _) fun _ => ?_
  refine .get fun c₁ c₂ ⟨kind, h⟩ => ?_
  have same : c₂.errand = c₁.errand := congrArg Client.errand h.twin
  rw [same]
  refine Parallel.bind (still none) (fun _ => ?_) c₁ c₂ ⟨kind, h⟩
  cases c₁.errand.bind (·.verdict) with
  | some f => exact .throw _
  | none => exact .ofAttempt _

theorem parallel_load (job : Job) (spec : String) (port : Int) (scope : ScopeId)
    (files : List LocalFile) {execute₁ : String → ScopeId → Action ω₁ α}
    {execute₂ : String → ScopeId → Action ω₂ α}
    (h : ∀ sql scope, Parallel P.Twinned (execute₁ sql scope) (execute₂ sql scope)) :
    Parallel P.Twinned (load P.env job spec port scope files execute₁)
      (load P.twinEnv job spec port scope files execute₂) := by
  refine .bind (parallel_candidates spec) fun hosts => .bind (parallel_dial hosts port) fun _ => ?_
  refine .guarded ?_ parallel_closeEndpoint
  refine .bind (parallel_atEndpoint _) fun _ => .get fun c₁ c₂ ⟨kind, hc⟩ => ?_
  have endpoint : c₂.endpoint = c₁.endpoint := congrArg Client.endpoint hc.twin
  rw [endpoint]
  refine Parallel.bind (.ofAttempt _) (fun job => ?_) c₁ c₂ ⟨kind, hc⟩
  exact .bind (parallel_annotate _ _) fun _ => parallel_supervise _ (h _ _)

theorem openFiles_twinEnv (paths : List String) :
    openFiles P.twinEnv paths = openFiles P.env paths := by
  induction paths with
  | nil => rfl
  | cons path paths ih =>
    have files : P.twinEnv.files = P.env.files := rfl
    simp only [openFiles, ih, files]

theorem parallel_run (spec : String) (port : Int) (sql : String)
    {execute₁ : String → ScopeId → Action ω₁ α} {execute₂ : String → ScopeId → Action ω₂ α}
    (parent : Option ScopeId)
    (h : ∀ sql scope, Parallel P.Twinned (execute₁ sql scope) (execute₂ sql scope)) :
    Parallel P.Twinned (run P.env spec port sql execute₁ parent)
      (run P.twinEnv spec port sql execute₂ parent) := by
  refine .bind (.ofAttempt _) fun job => .bind ?_ fun scope => ?_
  · rintro c₁ c₂ ⟨kind, h⟩
    unfold Agree
    dsimp only
    rw [h.scopes]
    exact ⟨rfl, kind, h.plain, h.wires, h.news, congrArg (fun c => { c with
      scopes := (c₁.scopes.create .none parent).2 }) h.twin⟩
  · rw [openFiles_twinEnv]
    rcases openFiles P.env job.paths with ⟨opened, result⟩
    refine .bind (parallel_record (List.forall_mem_map.2 fun _ _ => rfl)) fun _ => ?_
    refine .bind (.attempt ?_) fun result' => ?_
    · exact .bind (.ofAttempt _) fun _ => parallel_load job spec port scope _ h
    · refine .bind (parallel_record (List.forall_mem_map.2 fun _ _ => rfl)) fun _ => ?_
      exact .ofAttempt _

end Import

namespace Connection

open Parallel
open ExaWire.Action

theorem parallel_ensureOpen :
    Parallel P.Twinned (ensureOpen : Action ω₁ Unit) (ensureOpen : Action ω₂ Unit) :=
  parallel_session fun _ _ => .ite (.throw _) (.pure _)

theorem parallel_execute (sql : String) (values : Value) (scope : Option ScopeId) :
    Parallel P.Twinned (execute P.env sql values scope) (execute P.twinEnv sql values scope) := by
  refine .bind parallel_ensureOpen fun _ => parallel_session fun s _ => ?_
  refine .ite (.bind (Import.parallel_run _ _ _ _ fun statement scope => ?_) fun _ => .ofAttempt _)
    (.bind (Statement.parallel_run sql values scope) fun _ => .ofAttempt _)
  exact Statement.parallel_run statement values (some scope)

theorem parallel_query (sql : String) (values : Value) (scope : Option ScopeId) :
    Parallel P.Twinned (query P.env sql values scope) (query P.twinEnv sql values scope) := by
  refine .bind parallel_ensureOpen fun _ => .bind (Statement.parallel_run sql values scope) fun _ => ?_
  refine parallel_session fun s _ => .bind (.ofAttempt _) fun page => ?_
  exact .pure (Cursor.ofPage s page)

theorem parallel_prepare (sql : String) (scope : Option ScopeId) :
    Parallel P.Twinned (prepare P.env sql scope) (prepare P.twinEnv sql scope) :=
  .bind parallel_ensureOpen fun _ => Statement.parallel_prepare sql scope

theorem parallel_begin :
    Parallel P.Twinned (begin : Action ω₁ Transaction) (begin : Action ω₂ Transaction) :=
  .bind parallel_ensureOpen fun _ => parallel_session fun s _ => .ofAttempt (Transaction.start s)

theorem parallel_close : Parallel P.Twinned (close P.env) (close P.twinEnv) := by
  refine parallel_session fun s _ => .ite (.pure _) ?_
  exact .bind (parallel_annotate _ _) fun _ => Session.parallel_closeSession

end Connection

end ExaWire
