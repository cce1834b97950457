/-
ExaWire/Proofs/Session/Caller.lean

A request taken apart into the steps between which others may act.

`Session.send` goes from the lock to the decoded reply without a pause.  One caller among
many goes through the same pieces one after the other, and anything may happen in between.
`Place` is what a caller is at, and `Call.go` the next step from there; a caller that waits
for its reply keeps the far end as it was when it took the frame, which nothing looks at
but the proofs.

A caller that is never interrupted does exactly what `send` does (`goes_send`).
-/
import ExaWire.Proofs.Session.Exchange

namespace ExaWire.Session

open Network
open ExaWire.Action

variable {ω α β : Type}

/-- A call: what it requests, and the scope that may end its wait. -/
structure Call where
  request : Value
  scope : Option ScopeId := none

/-- What a caller is at. -/
inductive Place (ω : Type)
  | begun
  /-- it found the lock taken -/
  | refused (f : Failure)
  /-- it has taken the lock -/
  | admitted
  /-- it has seen that the session can carry a request -/
  | cleared
  /-- its frame is written, and it asks the scope next -/
  | waiting (w : ω) (scope : ScopeId)
  /-- the scope is not cancelled, and it asks the channel next -/
  | listening (w : ω) (scope : ScopeId)
  /-- the scope is cancelled -/
  | aborting (w : ω) (cause : Cause)
  /-- the reply is there to be read -/
  | reading (w : ω)
  /-- the reply was read, and the lock is still taken -/
  | heard (w : ω) (entries : List (Value × Value))
  /-- the exchange failed, and the lock is still taken -/
  | failing (f : Failure)
  /-- the lock is free again, and the reply is yet to be decoded -/
  | decoding (w : ω) (entries : List (Value × Value))
  | raised (f : Failure)
  | decoded (w : ω) (entries : List (Value × Value))

namespace Place

/-- Whether a caller has taken the lock and not freed it. -/
def holds : Place ω → Bool
  | .admitted | .cleared | .waiting .. | .listening .. | .aborting .. | .reading _ | .heard ..
  | .failing _ => true
  | _ => false

/-- Whether a caller is in the middle of its exchange. -/
def exchanges : Place ω → Bool
  | .admitted | .cleared | .waiting .. | .listening .. | .aborting .. | .reading _ => true
  | _ => false

/-- The far end as it took the frame of a caller that waits for the reply. -/
def asked : Place ω → Option ω
  | .waiting w _ | .listening w _ | .aborting w _ | .reading w => some w
  | _ => none

/-- What a caller has read, with the far end as it took the frame. -/
def reply : Place ω → Option (ω × List (Value × Value))
  | .heard w entries | .decoding w entries | .decoded w entries => some (w, entries)
  | _ => none

/-- What a call has come to, if it has ended. -/
def outcome (read : Value → Attempt α) : Place ω → Option (Attempt α)
  | .refused f | .raised f => some (.error f)
  | .decoded _ entries => some (answer read entries)
  | _ => none

/-- Whether a call has ended. -/
def isOver : Place ω → Bool
  | .refused _ | .raised _ | .decoded .. => true
  | _ => false

/-- Where a piece of an exchange leads to: it may fail. -/
def next (r : Attempt β) (go : β → Place ω) : Place ω :=
  match r with
  | .ok b => go b
  | .error f => .failing f

/-- Where a caller is led by an action that gives the reply. -/
def hear (w : ω) (a : Action ω (List (Value × Value))) (c : Client ω) : Place ω × Client ω :=
  (.next (a c).1 (.heard w), (a c).2)

end Place

namespace Call

variable {env : Environment ω} {call : Call} {c : Client ω} {w : ω}

/-- Where a caller waits for the reply, once the far end in state `w` has taken its frame. -/
def await (call : Call) (w : ω) : Place ω :=
  match call.scope with
  | none => .reading w
  | some scope => .waiting w scope

/-- The next step of a caller. -/
def go (env : Environment ω) (call : Call) : Place ω → Client ω → Place ω × Client ω
  | .begun, c =>
    match c.session.grant with
    | .ok () => (.admitted, marked c)
    | .error f => (.refused f, c)
  | .admitted, c => (.next (c.session.usable call.request) fun _ => .cleared, c)
  | .cleared, c =>
    (.next (write env call.request c).1 fun _ => call.await c.wire, (write env call.request c).2)
  | .waiting w scope, c =>
    match (c.poll scope).1 with
    | some cause => (.aborting w cause, (c.poll scope).2)
    | none => (.listening w scope, (c.poll scope).2)
  | .listening w scope, c =>
    match (Channel.poll env c).1 with
    | .ok true => (.reading w, (Channel.poll env c).2)
    | .ok false => (.waiting w scope, (Channel.poll env c).2.idle)
    | .error f => Place.hear w (orBreak (.error f)) (Channel.poll env c).2
  | .aborting w cause, c => Place.hear w (abort env cause) c
  | .reading w, c => Place.hear w (read env) c
  | .heard w entries, c => (.decoding w entries, unmarked c)
  | .failing f, c => (.raised f, unmarked c)
  | .decoding w entries, c => (.decoded w entries, c)
  | p, c => (p, c)

/-! ### Without a pause -/

/-- The steps of a caller that is never interrupted. -/
abbrev Goes (env : Environment ω) (call : Call) : Place ω × Client ω → Place ω × Client ω → Prop :=
  Relation.ReflTransGen fun x y => x.1.isOver = false ∧ y = call.go env x.1 x.2

theorem goes_go {p : Place ω} (h : p.isOver = false) : Goes env call (p, c) (call.go env p c) :=
  .single ⟨h, rfl⟩

/-- A wait, and what it leads to. -/
theorem goes_await (scope : ScopeId) (c : Client ω) : Goes env call (.waiting w scope, c)
    (match Session.await env scope c with
      | (.ready, c) => (.reading w, c)
      | (.cancelled cause, c) => (.aborting w cause, c)
      | (.failed f, c) => Place.hear w (orBreak (.error f)) c) := by
  -- a round is two steps: the scope is asked, and then the channel
  have round {c : Client ω} (h : (c.poll scope).1 = none) :
      Goes env call (.waiting w scope, c) (call.go env (.listening w scope) (c.poll scope).2) := by
    have asked : call.go env (.waiting w scope) c = (.listening w scope, (c.poll scope).2) := by
      simp only [go, h]
    refine .trans (b := (.listening w scope, (c.poll scope).2)) ?_ (goes_go rfl)
    rw [← asked]
    exact goes_go rfl
  fun_induction Session.await env scope c with
  | case1 c cause h =>
    have cancelled : call.go env (.waiting w scope) c = (.aborting w cause, (c.poll scope).2) := by
      simp only [go, h]
    show Goes env call (.waiting w scope, c) (.aborting w cause, (c.poll scope).2)
    rw [← cancelled]
    exact goes_go rfl
  | case2 c h f h' | case3 c h h' =>
    have goes := round h
    simp only [go, h'] at goes
    exact goes
  | case4 c h h' ih =>
    have goes := round h
    simp only [go, h'] at goes
    exact goes.trans ih

theorem reply_apply (scope : ScopeId) (c : Client ω) :
    Session.reply env (some scope) c = match Session.await env scope c with
      | (.ready, c) => read env c
      | (.cancelled cause, c) => abort env cause c
      | (.failed f, c) => orBreak (.error f) c := by
  unfold Session.reply
  dsimp only
  rw [bind_apply]
  rcases Session.await env scope c with ⟨_ | _ | _, c⟩ <;> rfl

/-- From where the frame was taken to where the reply was read. -/
theorem goes_reply (c : Client ω) :
    Goes env call (call.await w, c) (Place.hear w (Session.reply env call.scope) c) := by
  unfold Call.await
  cases call.scope with
  | none => exact goes_go rfl
  | some scope =>
    have goes : Goes env call (.waiting w scope, c) _ := goes_await scope c
    unfold Place.hear
    rw [reply_apply]
    generalize Session.await env scope c = turn at goes ⊢
    obtain ⟨_ | cause | f, c⟩ := turn
    · exact goes.trans (goes_go rfl)
    · exact goes.trans (goes_go rfl)
    · exact goes

theorem exchange_apply (request : Value) (scope : Option ScopeId) (c : Client ω) :
    exchange env request scope c = match c.session.usable request with
      | .error f => (.error f, c)
      | .ok () => match write env request c with
        | (.error f, c') => (.error f, c')
        | (.ok (), c') => Session.reply env scope c' := by
  show (ofAttempt (c.session.usable request) >>= fun _ => write env request >>= fun _ =>
    Session.reply env scope) c = _
  cases c.session.usable request with
  | error f => rfl
  | ok _ =>
    show (write env request >>= fun _ => Session.reply env scope) c = _
    rw [bind_apply]
    rcases write env request c with ⟨_ | _, c'⟩ <;> rfl

/-- From where the lock was taken to where the exchange is over. -/
theorem goes_exchange (c : Client ω) : ∃ w,
    Goes env call (.admitted, c) (Place.hear w (exchange env call.request call.scope) c) := by
  refine ⟨c.wire, ?_⟩
  have check : Goes env call (.admitted, c)
      (.next (c.session.usable call.request) fun _ => .cleared, c) := goes_go rfl
  have write : Goes env call (.cleared, c)
      (.next (Session.write env call.request c).1 fun _ => call.await c.wire,
        (Session.write env call.request c).2) := goes_go rfl
  unfold Place.hear
  rw [exchange_apply]
  cases usable : c.session.usable call.request with
  | error f =>
    rw [usable] at check
    exact check
  | ok _ =>
    rw [usable] at check
    refine check.trans (write.trans ?_)
    rcases Session.write env call.request c with ⟨_ | _, c'⟩
    · exact .refl
    · exact goes_reply c'

theorem send_apply (request : Value) (read : Value → Attempt α) (scope : Option ScopeId)
    (c : Client ω) : send env request read scope c = match c.session.grant with
      | .error f => (.error f, c)
      | .ok () =>
        (match (exchange env request scope (marked c)).1 with
          | .ok entries => answer read entries
          | .error f => .error f, unmarked (exchange env request scope (marked c)).2) := by
  show (ofAttempt c.session.grant >>= fun _ => setSession (fun s => { s with outstanding := true }) >>= fun _ =>
    attempt (exchange env request scope) >>= fun result =>
      setSession (fun s => { s with outstanding := false }) >>= fun _ =>
        ofAttempt result >>= fun entries => ofAttempt (answer read entries)) c = _
  cases c.session.grant with
  | error f => rfl
  | ok _ =>
    show (ofAttempt (exchange env request scope (marked c)).1 >>= fun entries => ofAttempt (answer read entries))
      (unmarked (exchange env request scope (marked c)).2) = _
    cases (exchange env request scope (marked c)).1 <;> rfl

/-- A caller that is never interrupted ends with the result of `send`, and leaves the client as
`send` does. -/
theorem goes_send (read : Value → Attempt α) (c : Client ω) : ∃ p,
    Goes env call (.begun, c) (p, (send env call.request read call.scope c).2) ∧
      p.outcome read = some (send env call.request read call.scope c).1 := by
  rw [send_apply]
  have begins : Goes env call (.begun, c) (call.go env .begun c) := goes_go rfl
  unfold go at begins
  cases grant : c.session.grant with
  | error f =>
    simp only [grant] at begins
    exact ⟨_, begins, rfl⟩
  | ok _ =>
    simp only [grant] at begins
    obtain ⟨w, exchanged⟩ : ∃ w, Goes env call (.admitted, marked c) _ := goes_exchange (marked c)
    have goes := begins.trans exchanged
    unfold Place.hear at goes
    generalize Session.exchange env call.request call.scope (marked c) = turn at goes ⊢
    obtain ⟨f | entries, c'⟩ := turn
    · have freed : Goes env call (.failing f, c') (.raised f, unmarked c') := goes_go rfl
      exact ⟨.raised f, goes.trans freed, rfl⟩
    · have freed : Goes env call (.heard w entries, c') (.decoding w entries, unmarked c') := goes_go rfl
      have decoded : Goes env call (.decoding w entries, unmarked c') (.decoded w entries, unmarked c') :=
        goes_go rfl
      exact ⟨.decoded w entries, (goes.trans freed).trans decoded, rfl⟩

end Call

end ExaWire.Session
