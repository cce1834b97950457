/-
ExaWire/Proofs/Session/Elementary.lean

The elementary steps of a request, and of a statement that is run by requests.

A client that sends a request changes its session, writes notes, operates its wire, asks a
scope and lets an upload go on while it waits, and nothing else.  So a relation that allows
each of these (`Client.Allows`) is one along which every request leads, and every statement.
-/
import ExaWire.Proofs.Action
import ExaWire.Statement

namespace ExaWire

open Network

variable {ω α : Type} {env : Environment ω} {R : Client ω → Client ω → Prop}

/-- A relation that allows the elementary steps of a request. -/
structure Client.Allows (R : Client ω → Client ω → Prop) : Prop where
  session : ∀ (f : Session → Session) (c : Client ω), R c { c with session := f c.session }
  annotate : ∀ (notes : List Note) (c : Client ω), R c (c.annotate notes)
  after : ∀ {β : Type} (turn : Turn ω β) (c : Client ω), R c (c.after turn)
  sent : ∀ (frame : Frame) (c : Client ω), R c (c.record [.sent frame])
  received : ∀ (payload : Bytes) (c : Client ω), R c (c.record [.received payload])
  poll : ∀ (scope : ScopeId) (c : Client ω), R c (c.poll scope).2
  idle : ∀ c : Client ω, R c c.idle

namespace Leads

theorem update {f : Client ω → Client ω} (h : ∀ c, R c (f c)) :
    Leads R (Action.update f : Action ω Unit) := h

theorem attempt {a : Action ω α} (h : Leads R a) : Leads R (Action.attempt a) := h

variable [IsPreorder (Client ω) R]

theorem ofAttempt (x : Attempt α) : Leads R (Action.ofAttempt x : Action ω α) := fun _ => refl_of R _

theorem session : Leads R (Action.session : Action ω Session) := fun _ => refl_of R _

end Leads

namespace Client.Allows

variable [IsPreorder (Client ω) R] (h : Client.Allows R)

include h

/-! ### The channel -/

omit [IsPreorder (Client ω) R] in
theorem note (level : Level) (text : String) : Leads R (Action.note level text : Action ω Unit) :=
  .update fun c => h.annotate _ c

omit [IsPreorder (Client ω) R] in
theorem setSession (f : Session → Session) : Leads R (Action.setSession f : Action ω Unit) :=
  .update fun c => h.session f c

theorem channelSend (frame : Frame) : Leads R (Channel.send env frame) := by
  intro c
  unfold Ends Channel.send
  generalize env.wire.send frame c.wire = turn
  obtain ⟨text | _, _, _, _⟩ := turn
  · exact h.after _ c
  · exact trans_of R (h.after _ c) (h.sent frame _)

theorem channelReceive : Leads R (Channel.receive env) := by
  intro c
  unfold Ends Channel.receive
  generalize env.wire.receive c.wire = turn
  obtain ⟨text | _ | payload, _, _, _⟩ := turn
  · exact h.after _ c
  · exact h.after _ c
  · exact trans_of R (h.after _ c) (h.received payload _)

omit [IsPreorder (Client ω) R] in
theorem channelAsk (c : Client ω) : R c (Channel.ask env c).2 := by
  unfold Channel.ask
  generalize env.wire.poll c.wire = turn
  obtain ⟨text | ready, _, _, _⟩ := turn <;> exact h.after _ c

theorem channelPoll (c : Client ω) : R c (Channel.poll env c).2 := by
  unfold Channel.poll
  split
  · exact h.channelAsk c
  · split
    · split
      · exact refl_of R c
      · exact h.channelAsk c
    · exact refl_of R c

/-! ### Requests -/

theorem breakFor (what why : String) :
    Leads R (do throw (← Session.breakFor what why) : Action ω α) :=
  .bind (.bind (h.setSession _) fun _ => .bind (h.note _ _) fun _ => .pure _) fun _ => .throw _

theorem orBreak (r : Attempt α) : Leads R (Session.orBreak r : Action ω α) := by
  cases r with
  | ok a => exact .pure a
  | error f => exact h.breakFor _ _

theorem write (request : Value) : Leads R (Session.write env request) := by
  refine .bind .session fun s => .bind (.ofAttempt _) fun payload => ?_
  refine .bind (.ofAttempt _) fun name => .bind (h.note _ _) fun _ => ?_
  exact .bind (.attempt (h.channelSend _)) fun r => h.orBreak r

theorem await (scope : ScopeId) (c : Client ω) : R c (Session.await env scope c).2 := by
  -- by induction on the rounds, each of which asks the scope and the channel
  fun_induction Session.await env scope c with
  | case1 c => exact h.poll scope c
  | case2 c | case3 c => exact trans_of R (h.poll scope c) (h.channelPoll _)
  | case4 c _ _ ih =>
    have round : R c (Channel.poll env (c.poll scope).2).2 :=
      trans_of R (h.poll scope c) (h.channelPoll _)
    exact trans_of R (trans_of R round (h.idle _)) ih

theorem abort (cause : Cause) : Leads R (Session.abort env cause : Action ω α) := by
  refine .bind (h.setSession _) fun _ => .bind (h.note _ _) fun _ => ?_
  refine .bind .session fun s => .bind (.ofAttempt _) fun payload => ?_
  refine .bind (.attempt (h.channelSend _)) fun r => ?_
  cases r <;> exact .throw _

theorem read : Leads R (Session.read env) := by
  refine .bind (.attempt h.channelReceive) fun r => .bind (h.orBreak r) fun payload => ?_
  refine .bind .session fun s => ?_
  cases Session.decode env.codec s.compressing payload with
  | ok entries => exact .pure _
  | error u => exact h.breakFor _ _

theorem reply (scope : Option ScopeId) : Leads R (Session.reply env scope) := by
  cases scope with
  | none => exact h.read
  | some scope =>
    refine .bind (h.await scope) fun waited => ?_
    cases waited with
    | ready => exact h.read
    | cancelled cause => exact h.abort cause
    | failed f => exact h.orBreak _

theorem send (request : Value) (read : Value → Attempt α) (scope : Option ScopeId) :
    Leads R (Session.send env request read scope) := by
  have exchange : Leads R (Session.exchange env request scope) :=
    .bind .session fun s => .bind (.ofAttempt _) fun _ =>
      .bind (h.write request) fun _ => h.reply scope
  refine .bind .session fun s => .bind (.ofAttempt _) fun _ => ?_
  refine .bind (h.setSession _) fun _ => .bind (.attempt exchange) fun r => ?_
  refine .bind (h.setSession _) fun _ => .bind (.ofAttempt r) fun entries => ?_
  exact .ofAttempt _

end Client.Allows

/-! ### Statements -/

/-- What a client does with an object beside it, along a relation for the client. -/
def OnClient (R : Client ω → Client ω → Prop) {o : Type} (s t : o × Client ω) : Prop := R s.2 t.2

instance {o : Type} [IsPreorder (Client ω) R] : IsPreorder (o × Client ω) (OnClient R) where
  refl s := refl_of R s.2
  trans _ _ _ h h' := trans_of R h h'

namespace Leads

variable {o : Type}

theorem act {a : Action ω α} (h : Leads R a) : Leads (OnClient R) (Held.act a : Held o ω α) := fun s =>
  h s.2

theorem on (x : o) {a : Held o ω α} (h : Leads (OnClient R) a) : Leads R (a.on x) := fun c => h (x, c)

variable [IsPreorder (Client ω) R]

theorem object : Leads (OnClient R) (Held.object : Held o ω o) := fun s => refl_of R s.2

theorem change (f : o → o) : Leads (OnClient R) (Held.change f : Held o ω Unit) := fun s =>
  refl_of R s.2

end Leads

namespace Client.Allows

variable [IsPreorder (Client ω) R] (h : Client.Allows R)

include h

theorem execute (values : Value) (scope : Option ScopeId) :
    Leads (OnClient R) (Prepared.execute env values scope) := by
  refine .bind .object fun p => .bind (.act (.ofAttempt _)) fun batch => ?_
  refine .bind (.act .session) fun s => .bind (.act (.ofAttempt _)) fun _ => ?_
  exact .bind (.act (h.send _ _ _)) fun reply => .act (.ofAttempt _)

theorem close : Leads (OnClient R) (Prepared.close env) := by
  refine .bind .object fun p => .ite (.pure _) (.bind (.act .session) fun s => ?_)
  refine .bind (.act (.ofAttempt _)) fun _ => ?_
  exact .bind (.act (h.send _ _ _)) fun _ => .change _

theorem tidy (p : Prepared) : Leads R (Statement.tidy env p) := by
  refine .bind .session fun s => .ite (.bind (.on p h.close) ?_) (.pure _)
  rintro ⟨_ | _, _⟩
  · exact .ite (h.note _ _) (.throw _)
  · exact .pure _

theorem once (sql : String) (values : Value) (scope : Option ScopeId) :
    Leads R (Statement.once env sql values scope) := by
  have prepare : Leads R (Statement.prepare env sql scope) :=
    .bind .session fun s => .bind (.ofAttempt _) fun _ =>
      .bind (h.send _ _ _) fun reply => .bind (h.note _ _) fun _ => .pure _
  refine .bind prepare fun p => .bind (.on p (h.execute values scope)) ?_
  -- a statement that failed is tidied up, one that succeeded is closed
  rintro ⟨f | reply, p⟩
  · exact .bind (h.tidy p) fun _ => .throw _
  · refine .bind (.on p h.close) fun _ => ?_
    exact .bind (.ofAttempt _) fun _ => .pure _

/-- A statement, with parameters or without. -/
theorem run (sql : String) (values : Value) (scope : Option ScopeId) :
    Leads R (Statement.run env sql values scope) := by
  refine .ite (h.once sql values scope) ?_
  refine .bind .session fun s => .bind (.ofAttempt _) fun _ => ?_
  exact .bind (h.send _ _ _) fun reply => .ofAttempt _

end Client.Allows

end ExaWire
