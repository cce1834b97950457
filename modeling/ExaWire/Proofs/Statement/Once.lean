/-
ExaWire/Proofs/Statement/Once.lean

A statement that is prepared for one execution is closed afterwards.

Three requests make up such a statement: it is prepared, executed and closed.  The
execution asks for the handle that the server gave, at most once.  If the session is open
after that, whatever the execution came to, the closing of that handle is tried exactly
once; if not, it is not tried at all.  The caller is told what the execution came to, and
what the closing came to only if the execution was a success.
-/
import ExaWire.Proofs.Session.Beginning
import ExaWire.Proofs.Session.Farewell
import ExaWire.Proofs.Session.Tried

namespace ExaWire

open Network Session
open Client (Still)

variable {ω : Type} {env : Environment ω} {c : Client ω}

/-! ### The execution -/

namespace Prepared

/-- The request for an execution of a handle. -/
def IsExecution (handle : Int) (request : Value) : Prop :=
  ∃ columns numRows data maxRows,
    request = Command.executePrepared (.int handle) columns numRows data maxRows

/-- How the execution of a prepared statement ends: nothing is written, or a request for its
handle and what the failure of that request adds, or that request and its reply are all that
happens. -/
inductive Executes (env : Environment ω) (handle : Int) (c : Client ω) :
    Attempt QueryReply → Client ω → Prop
  | unsent {f} : Executes env handle c (.error f) c
  | failed {request payload news f c'} (own : IsExecution handle request)
      (hp : encode env.codec c.session.compressing request = .ok payload)
      (hn : CutShort env ⟨payload, c.session.compressing⟩ news)
      (goes : c.Goes c' c.session.broken news) : Executes env handle c (.error f) c'
  | answered {request payload bs r c'} (own : IsExecution handle request)
      (hp : encode env.codec c.session.compressing request = .ok payload)
      (goes : c.Goes c' c.session [.sent ⟨payload, c.session.compressing⟩, .received bs]) :
    Executes env handle c r c'

theorem ends_execute (env : Environment ω) (values : Value) (scope : Option ScopeId) (p : Prepared)
    (c : Client ω) :
    Ends (execute env values scope) (p, c) fun r s => s.1 = p ∧ Executes env p.handle c r s.2 := by
  refine .object (.heldOfAttempt (fun batch _ => .actSession ?_) fun f _ => ⟨rfl, .unsent⟩)
  refine .heldOfAttempt (fun _ _ => ?_) fun f _ => ⟨rfl, .unsent⟩
  let request := Command.executePrepared (.int p.handle) batch.columns (.int batch.numRows)
    batch.wireData (.int c.session.config.resultSetMaxRows)
  have own : IsExecution p.handle request := ⟨_, _, _, _, rfl⟩
  refine .act (ends_send_told _ QueryReply.ofValue scope c) ?_ ?_
  · rintro reply c₁ (_ | _ | ⟨-, a, -⟩)
    exact ⟨rfl, .answered own a.encoded a.goes⟩
  · rintro f c₁ (_ | ⟨-, -, -, hp, hn, goes⟩ | ⟨-, a, -⟩)
    · exact ⟨rfl, .unsent⟩
    · exact ⟨rfl, .failed own hp hn goes⟩
    · exact ⟨rfl, .answered own a.encoded a.goes⟩

/-- What an execution that went well leaves open stays open. -/
theorem Executes.session_of_open {handle : Int} {r : Attempt QueryReply} {c' : Client ω}
    (h : Executes env handle c r c') (isOpen : c'.session.phase = .open) : c'.session = c.session := by
  cases h with
  | unsent => rfl
  | failed _ _ _ goes => cases (congrArg Session.phase goes.session).symm.trans isOpen
  | answered _ _ goes => exact goes.session

theorem Executes.isOpen {handle : Int} {reply : QueryReply} {c' : Client ω}
    (h : Executes env handle c (.ok reply) c') (isOpen : c.session.phase = .open) :
    c'.session.phase = .open := by
  obtain _ | _ | ⟨-, -, goes⟩ := h
  rw [goes.session, isOpen]

/-! ### The closing -/

/-- One try to have the server close a prepared statement, and what it came to.  Only a handle
with too many digits to be written keeps the request from the wire. -/
structure Closes (env : Environment ω) (handle : Int) (c : Client ω) (r : Attempt Unit)
    (c' : Client ω) : Prop where
  sends : Session.send env (Command.closePrepared (.int handle)) noData none c = (r, c')
  tried : Tried env (Command.closePrepared (.int handle)) c c'
  written : isWritable handle = true →
    ∃ payload, encode env.codec c.session.compressing (Command.closePrepared (.int handle)) = .ok payload

theorem encode_closePrepared {handle : Int} (h : isWritable handle = true) (codec : Codec)
    (compressing : Bool) :
    ∃ payload, encode codec compressing (Command.closePrepared (.int handle)) = .ok payload := by
  have written : Json.writeInt handle = .ok (toString handle).toList := if_pos h
  obtain ⟨cs, hw⟩ : ∃ cs, Json.write (Command.closePrepared (.int handle)) = .ok cs := by
    simp [Command.closePrepared, Command.named, Value.ofFields, Json.write, Json.writeEntries,
      Json.writeKey, Json.writeAtom, written, bind, Except.bind]
  exact ⟨_, encode_eq_ok.2 ⟨cs, hw, rfl⟩⟩

/-- The closing of a statement on an open session without a request under way. -/
theorem ends_close {p : Prepared} (unclosed : p.isClosed = false)
    (serial : c.session.serial = p.serial) (free : c.session.outstanding = false)
    (carries : c.session.Carries) :
    Ends (close env) (p, c) fun r s =>
      Closes env p.handle c r s.2 ∧ ∀ f, r = .error f → f.isReported = true := by
  have live : c.session.live p.serial = .ok () :=
    if_pos ⟨serial, by simp [Session.isClosed, carries.isOpen]⟩
  have reports : Ends (Session.send env (Command.closePrepared (.int p.handle)) noData) c fun r _ =>
      ∀ f, r = .error f → f.isReported = true := by
    refine (ends_send_told _ noData none c).mono ?_
    rintro r c' (exchange | exchange | ⟨-, -, given⟩) f hf
    · cases hf; exact Failure.isReported_of_exchange exchange
    · cases hf; exact Failure.isReported_of_exchange exchange
    · exact fails_answer_reported (fun _ => .ok ()) _ f (given.trans hf)
  have closes : Ends (Session.send env (Command.closePrepared (.int p.handle)) noData) c
      (Closes env p.handle c) :=
    ⟨rfl, ends_send_tried free carries _ noData, fun h => encode_closePrepared h _ _⟩
  refine .object (.ite (fun h => by simp [unclosed] at h) fun _ => ?_)
  refine .actSession (.heldOfAttempt_ok live (.act (closes.and reports) ?_ ?_))
  · intro _ c' h
    refine ⟨h.1, fun f hf => ?_⟩
    cases hf
  · exact fun _ c' h => h

end Prepared

/-! ### The statement -/

namespace Statement

open Prepared (Executes Closes)

/-- How the preparation of a statement ends: in a statement whose handle the reply told. -/
inductive Prepares (env : Environment ω) (sql : String) (c : Client ω) :
    Attempt Prepared → Client ω → Prop
  | failed {f c'} : Prepares env sql c (.error f) c'
  | made {entries reply c'} (free : c.session.outstanding = false) (carries : c.session.Carries)
      (last : c.HasRead env.codec c' entries) (read : answer PreparedReply.ofValue entries = .ok reply) :
    Prepares env sql c (.ok {
      serial := c.session.serial
      handle := reply.handle
      columns := reply.columns
      numInput := reply.numParameters }) c'

theorem ends_prepare (env : Environment ω) (sql : String) (scope : Option ScopeId) (c : Client ω) :
    Ends (prepare env sql scope) c (Prepares env sql c) := by
  refine .session (.ofAttempt (fun _ _ => ?_) fun f _ => .failed)
  refine (ends_send_told _ PreparedReply.ofValue scope c).bind ?_ fun _ _ _ => .failed
  rintro reply c₁ (_ | _ | ⟨free, a, read⟩)
  exact .note (.pure (.made free a.carries (a.hasRead.steady (c₁.steady_annotate _)) read))

/-- How a statement ends that was executed in `c`, given what the execution came to. -/
inductive Finishes (env : Environment ω) (handle : Int) (c : Client ω) :
    Attempt QueryReply → Attempt QueryReply → Client ω → Prop
  /-- the session is not open any more, and the handle is left alone -/
  | left {f} (h : c.session.phase ≠ .open) : Finishes env handle c (.error f) (.error f) c
  /-- the execution failed, which is told whatever the closing came to; that is only noted -/
  | failed {f closed c₁ c'} (h : c.session.phase = .open) (closes : Closes env handle c closed c₁)
      (steady : c₁.Steady c') (wire : c'.wire = c₁.wire) : Finishes env handle c (.error f) (.error f) c'
  | done {reply closed c'} (h : c.session.phase = .open) (closes : Closes env handle c closed c') :
    Finishes env handle c (.ok reply) (closed.map fun _ => reply) c'

/-- What a new statement finds when it is closed. -/
structure Closable (p : Prepared) (s : Session) : Prop where
  unclosed : p.isClosed = false
  serial : s.serial = p.serial
  free : s.outstanding = false
  carries : s.Carries

theorem Prepares.closable {sql : String} {p : Prepared} {c' : Client ω}
    (h : Prepares env sql c (.ok p) c') : Closable p c'.session := by
  obtain _ | ⟨free, carries, last, -⟩ := h
  obtain ⟨_, _, goes, -⟩ := last
  rw [goes.session]
  exact ⟨rfl, rfl, free, carries⟩

theorem ends_tidy {p : Prepared} (h : c.session.phase = .open → Closable p c.session) (f : Failure) :
    Ends (tidy env p) c fun r c' =>
      r = .ok () ∧ Finishes env p.handle c (.error f) (.error f) c' := by
  refine .session (.ite (fun isOpen => ?_) fun notOpen => .pure ⟨rfl, .left notOpen⟩)
  obtain ⟨unclosed, serial, free, carries⟩ := h isOpen
  refine .on (Prepared.ends_close unclosed serial free carries) ?_
  rintro (g | _) _ c₁ ⟨closes, reported⟩
  · -- what the closing came to is reported, so that it never hides the failure at hand
    refine .ite (fun _ => ?_) fun other => absurd (reported g rfl) other
    exact ⟨rfl, .failed isOpen closes (c₁.steady_annotate _) rfl⟩
  · exact .pure ⟨rfl, .failed isOpen closes (.refl c₁) rfl⟩

/-- How a statement ends that is prepared for one execution. -/
inductive OneShot (env : Environment ω) (sql : String) (values : Value) (scope : Option ScopeId)
    (c : Client ω) : Attempt QueryReply → Client ω → Prop
  | unprepared {f c'} (h : prepare env sql scope c = (.error f, c')) :
    OneShot env sql values scope c (.error f) c'
  | prepared {p c₁ executed c₂ r c'} (prepared : prepare env sql scope c = (.ok p, c₁))
      (made : Prepares env sql c (.ok p) c₁)
      (executes : Prepared.execute env values scope (p, c₁) = (executed, p, c₂))
      (asks : Executes env p.handle c₁ executed c₂)
      (finishes : Finishes env p.handle c₂ executed r c') : OneShot env sql values scope c r c'

/-- A statement that is prepared for one execution never leaks its handle, and never hides what
went wrong. -/
theorem once_closes_handle (env : Environment ω) (sql : String) (values : Value)
    (scope : Option ScopeId) (c : Client ω) :
    Ends (once env sql values scope) c (OneShot env sql values scope c) := by
  have prepares : Ends (prepare env sql scope) c fun r c₁ =>
      prepare env sql scope c = (r, c₁) ∧ Prepares env sql c r c₁ := ⟨rfl, ends_prepare env sql scope c⟩
  refine prepares.bind ?_ fun f c₁ ⟨h, _⟩ => .unprepared h
  rintro p c₁ ⟨prepared, made⟩
  have closable := made.closable
  have executes : Ends (Prepared.execute env values scope) (p, c₁) fun r s =>
      Prepared.execute env values scope (p, c₁) = (r, s) ∧ s.1 = p ∧ Executes env p.handle c₁ r s.2 :=
    ⟨rfl, Prepared.ends_execute env values scope p c₁⟩
  refine .on executes ?_
  rintro executed p' c₂ ⟨run, same, asks⟩
  obtain rfl : p = p' := same.symm
  have oneShot {r : Attempt QueryReply} {c' : Client ω} (h : Finishes env p.handle c₂ executed r c') :
      OneShot env sql values scope c r c' := .prepared prepared made run asks h
  have closable₂ (isOpen : c₂.session.phase = .open) : Closable p c₂.session := by
    rw [asks.session_of_open isOpen]
    exact closable
  cases executed with
  | error f =>
    refine (ends_tidy closable₂ f).bind ?_ ?_
    · rintro _ c₃ ⟨-, finishes⟩
      exact .throw (oneShot finishes)
    · rintro _ c₃ ⟨⟨⟩, -⟩
  | ok reply =>
    have isOpen := asks.isOpen closable.carries.isOpen
    obtain ⟨unclosed, serial, free, carries⟩ := closable₂ isOpen
    refine .on (Prepared.ends_close unclosed serial free carries) ?_
    rintro closed _ c₃ ⟨closes, -⟩
    have done := oneShot (.done isOpen closes)
    cases closed with
    | ok _ => exact .pure done
    | error g => exact done

end Statement

end ExaWire
