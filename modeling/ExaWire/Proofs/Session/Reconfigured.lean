/-
ExaWire/Proofs/Session/Reconfigured.lean

A session beside the same session under other settings.

An exchange never looks at the settings of its session, nor at the padding for passwords.
So two clients that differ in these alone (`Resets`) exchange the same request for the same
reply, write the same frames and notes on the way, and still differ in their settings alone
when it has ended.  What depends on the settings is decided before: which requests are made.
-/
import ExaWire.Proofs.Parallel
import ExaWire.Proofs.Session.Compressed

namespace ExaWire

open Network

variable {ω α : Type} {env : Environment ω} {padding : Login.Padding} {settings : Config}

/-- Another padding for passwords. -/
def Environment.withPadding (env : Environment ω) (padding : Login.Padding) : Environment ω :=
  { env with padding }

namespace Client

/-- A client whose session has other settings. -/
def withConfig (c : Client ω) (settings : Config) : Client ω :=
  { c with session := { c.session with config := settings } }

/-- The second client is the first one under certain settings. -/
def Resets (settings : Config) (c₁ c₂ : Client ω) : Prop := c₂ = c₁.withConfig settings

theorem withConfig_advance (step : Import.Progress → Import.Progress) (c : Client ω) :
    (c.withConfig settings).advance step = (c.advance step).withConfig settings := by
  have errand : (c.withConfig settings).errand = c.errand := rfl
  have endpoint : (c.withConfig settings).endpoint = c.endpoint := rfl
  unfold advance
  rw [errand, endpoint]
  cases c.errand with
  | none => rfl
  | some errand =>
    cases c.endpoint with
    | none => rfl
    | some endpoint => rfl

end Client

open Client (Resets)

/-! ### Steps -/

namespace Action

theorem parallel_reset {f : Client ω → Client ω}
    (h : ∀ c, f (c.withConfig settings) = (f c).withConfig settings) :
    Parallel (Resets settings) (update f : Action ω Unit) (update f) :=
  .update fun c₁ c₂ hc => by rw [show c₂ = _ from hc]; exact h c₁

theorem parallel_note_reset (level : Level) (text : String) :
    Parallel (Resets settings) (note level text : Action ω Unit) (note level text) :=
  parallel_reset fun _ => rfl

theorem parallel_setSession_reset {f : Session → Session}
    (h : ∀ s : Session, f { s with config := settings } = { f s with config := settings }) :
    Parallel (Resets settings) (setSession f : Action ω Unit) (setSession f) :=
  parallel_reset fun c => congrArg (fun session => { c with session }) (h c.session)

theorem agree_session_reset {f₁ f₂ : Session → Action ω α} {c : Client ω}
    {Q : Attempt α → Client ω → Client ω → Prop}
    (h : Agree (f₁ c.session) (f₂ { c.session with config := settings }) c (c.withConfig settings) Q) :
    Agree (session >>= f₁) (session >>= f₂) c (c.withConfig settings) Q := h

theorem parallel_session_reset {f₁ f₂ : Session → Action ω α}
    (h : ∀ s : Session, Parallel (Resets settings) (f₁ s) (f₂ { s with config := settings })) :
    Parallel (Resets settings) (session >>= f₁) (session >>= f₂) := by
  rintro c _ rfl
  exact agree_session_reset (h c.session c _ rfl)

end Action

namespace Channel

theorem parallel_send_reset (frame : Frame) :
    Parallel (Resets settings) (send env frame) (send (env.withPadding padding) frame) := by
  rintro c _ rfl
  unfold Agree send Environment.withPadding
  show _ ∧ _
  dsimp only [Client.withConfig]
  rcases (env.wire.send frame c.wire) with ⟨_ | _, _, _, _⟩ <;> exact ⟨rfl, rfl⟩

theorem parallel_receive_reset :
    Parallel (Resets settings) (receive env) (receive (env.withPadding padding)) := by
  rintro c _ rfl
  unfold Agree receive Environment.withPadding
  show _ ∧ _
  dsimp only [Client.withConfig]
  rcases (env.wire.receive c.wire) with ⟨_ | _ | _, _, _, _⟩ <;> exact ⟨rfl, rfl⟩

theorem ask_withConfig (c : Client ω) : ask (env.withPadding padding) (c.withConfig settings) =
    ((ask env c).1, (ask env c).2.withConfig settings) := by
  unfold ask Environment.withPadding
  dsimp only [Client.withConfig]
  rcases (env.wire.poll c.wire) with ⟨_ | _, _, _, _⟩ <;> rfl

theorem poll_withConfig (c : Client ω) : poll (env.withPadding padding) (c.withConfig settings) =
    ((poll env c).1, (poll env c).2.withConfig settings) := by
  have link : (c.withConfig settings).link = c.link := rfl
  unfold poll
  rw [link, ask_withConfig]
  cases c.link with
  | bare => rfl
  | framed url isClosed =>
    show (if env.wire.isAttached c.wire then if 0 < env.wire.buffered c.wire then _ else _ else _) = _
    dsimp only
    split
    · split <;> rfl
    · rfl

theorem parallel_close_reset :
    Parallel (Resets settings) (close env) (close (env.withPadding padding)) := by
  rintro ⟨session, link, wire, scopes, endpoint, errand, dials, happenings, notes⟩ _ rfl
  rcases link with _ | ⟨url, _ | _⟩
  · exact ⟨rfl, rfl⟩
  · unfold Agree close Environment.withPadding
    show _ ∧ _
    dsimp only [Client.withConfig]
    rcases (env.wire.close wire) with ⟨_ | _, _, _, _⟩ <;> exact ⟨rfl, rfl⟩
  · exact ⟨rfl, rfl⟩

end Channel

/-! ### Exchanges -/

namespace Session

open ExaWire.Action

theorem parallel_breakFor_reset (what why : String) :
    Parallel (Resets settings) (breakFor what why : Action ω Failure) (breakFor what why) := by
  refine .bind (parallel_setSession_reset fun _ => rfl) fun _ => ?_
  exact .bind (parallel_note_reset _ _) fun _ => .pure _

theorem parallel_orBreak_reset (r : Attempt α) :
    Parallel (Resets settings) (orBreak r : Action ω α) (orBreak r) := by
  cases r with
  | ok a => exact .pure a
  | error f => exact .bind (parallel_breakFor_reset _ _) fun _ => .throw _

theorem parallel_write_reset (request : Value) :
    Parallel (Resets settings) (write env request) (write (env.withPadding padding) request) := by
  refine parallel_session_reset fun s => .bind (.ofAttempt _) fun payload => ?_
  refine .bind (.ofAttempt _) fun name => .bind (parallel_note_reset _ _) fun _ => ?_
  exact .bind (.attempt (Channel.parallel_send_reset _)) fun r => parallel_orBreak_reset r

theorem await_withConfig (scope : ScopeId) (c : Client ω) :
    await (env.withPadding padding) scope (c.withConfig settings) =
      ((await env scope c).1, (await env scope c).2.withConfig settings) := by
  -- each round of the one wait is a round of the other: what a round asks is no setting
  have goes {c : Client ω} (goesOn : (c.poll scope).1 = none) :
      ((c.withConfig settings).poll scope).1 = none := goesOn
  have asked {c : Client ω} {answer : Attempt Bool}
      (answered : (Channel.poll env (c.poll scope).2).1 = answer) :
      Channel.poll (env.withPadding padding) ((c.withConfig settings).poll scope).2 =
        (answer, (Channel.poll env (c.poll scope).2).2.withConfig settings) := by
    rw [← answered]
    exact Channel.poll_withConfig (c.poll scope).2
  fun_induction await env scope c with
  | case1 c cause cancelled =>
    have cancelled' : ((c.withConfig settings).poll scope).1 = some cause := cancelled
    rw [await, cancelled']
    rfl
  | case2 c goesOn f failed => rw [await_round (goes goesOn), asked failed]
  | case3 c goesOn ready => rw [await_round (goes goesOn), asked ready]
  | case4 c goesOn notReady ih =>
    rw [await_round (goes goesOn), asked notReady, ← ih]
    exact congrArg (await (env.withPadding padding) scope) (Client.withConfig_advance _ _)

theorem parallel_abort_reset (cause : Cause) :
    Parallel (Resets settings) (abort env cause : Action ω α)
      (abort (env.withPadding padding) cause) := by
  refine .bind (parallel_setSession_reset fun _ => rfl) fun _ => ?_
  refine .bind (parallel_note_reset _ _) fun _ => parallel_session_reset fun s => ?_
  refine .bind (.ofAttempt _) fun payload => ?_
  refine .bind (.attempt (Channel.parallel_send_reset _)) fun r => ?_
  cases r with
  | ok _ => exact .throw _
  | error f => exact .throw _

theorem parallel_read_reset :
    Parallel (Resets settings) (read env) (read (env.withPadding padding)) := by
  refine .bind (.attempt Channel.parallel_receive_reset) fun r => ?_
  refine .bind (parallel_orBreak_reset r) fun payload => parallel_session_reset fun s => ?_
  have codec : (env.withPadding padding).codec = env.codec := rfl
  rw [codec]
  cases decode env.codec s.compressing payload with
  | ok entries => exact .pure entries
  | error u => exact .bind (parallel_breakFor_reset _ _) fun _ => .throw _

theorem parallel_reply_reset (scope : Option ScopeId) :
    Parallel (Resets settings) (reply env scope) (reply (env.withPadding padding) scope) := by
  cases scope with
  | none => exact parallel_read_reset
  | some scope =>
    -- the wait itself does not fail, it only tells how it ended
    have waits : Parallel (Resets settings)
        (fun c => (.ok (await env scope c).1, (await env scope c).2) : Action ω Waited)
        (fun c => (.ok (await (env.withPadding padding) scope c).1,
          (await (env.withPadding padding) scope c).2) : Action ω Waited) := by
      rintro c _ rfl
      have same : await (env.withPadding padding) scope (c.withConfig settings) = _ :=
        await_withConfig scope c
      exact ⟨congrArg (Except.ok ·.1) same.symm, congrArg Prod.snd same⟩
    refine .bind waits fun waited => ?_
    cases waited with
    | ready => exact parallel_read_reset
    | cancelled cause => exact parallel_abort_reset cause
    | failed f => exact parallel_orBreak_reset (.error f)

/-- A request is exchanged for its reply whatever the settings are. -/
theorem parallel_exchange_reset (request : Value) (scope : Option ScopeId) :
    Parallel (Resets settings) (exchange env request scope)
      (exchange (env.withPadding padding) request scope) := by
  refine parallel_session_reset fun s => .bind (.ofAttempt (s.usable request)) fun _ => ?_
  exact .bind (parallel_write_reset request) fun _ => parallel_reply_reset scope

theorem parallel_send_reset (request : Value) (read : Value → Attempt α) (scope : Option ScopeId) :
    Parallel (Resets settings) (send env request read scope)
      (send (env.withPadding padding) request read scope) := by
  refine parallel_session_reset fun s => .bind (.ofAttempt s.grant) fun _ => ?_
  refine .bind (parallel_setSession_reset fun _ => rfl) fun _ => ?_
  refine .bind (.attempt (parallel_exchange_reset request scope)) fun r => ?_
  refine .bind (parallel_setSession_reset fun _ => rfl) fun _ => .bind (.ofAttempt r) fun entries => ?_
  exact .ofAttempt (answer read entries)

theorem parallel_shutdown_reset :
    Parallel (Resets settings) (shutdown env) (shutdown (env.withPadding padding)) := by
  refine parallel_session_reset fun s => .bind (parallel_setSession_reset fun _ => rfl) fun _ => ?_
  exact .ite Channel.parallel_close_reset (.pure _)

end Session

end ExaWire
