/-
ExaWire/Proofs/Session/Compressed.lean

A session that compresses beside one that does not.

Requests of twins are exchanged alike: they are refused together, written as frames of
twins, awaited, given up, answered and misread together.  The flag is looked at when a
request is encoded, when its frame is sent, when its reply is read and when it is given
up; each of these keeps the two sessions twins, and so does an exchange as a whole.

A login runs uncompressed on both sides.  Its second request tells the server whether to
compress from then on, and once it was answered the second session does so as well.
-/
import ExaWire.Proofs.Session.Closing
import ExaWire.Proofs.Session.Twins

namespace ExaWire

open Network Pairing

variable {ω₁ ω₂ α β : Type} {P : Pairing ω₁ ω₂} {kind : Bool} {c₁ : Client ω₁} {c₂ : Client ω₂}

/-! ### Actions of twins -/

namespace Pairing

/-- What keeps twins twins whatever the kind does so. -/
theorem parallel_twinned {a₁ : Action ω₁ α} {a₂ : Action ω₂ α}
    (h : ∀ kind, Parallel (P.Twins kind) a₁ a₂) : Parallel P.Twinned a₁ a₂ := by
  rintro c₁ c₂ ⟨kind, hc⟩
  exact (h kind c₁ c₂ hc).mono fun _ _ _ twins => twins.twinned

theorem parallel_setSession {f₁ f₂ : Session → Session} (plain : ∀ s : Session, s.Plain → (f₁ s).Plain)
    (twin : ∀ s, f₂ (s.twin P.compressing) = (f₁ s).twin P.compressing) :
    Parallel (P.Twins kind) (Action.setSession f₁) (Action.setSession f₂) :=
  .update fun _ _ h => h.setSession plain twin

theorem parallel_note (level : Level) (text : String) :
    Parallel (P.Twins kind) (Action.note level text) (Action.note level text) :=
  .update fun _ _ h => h.annotate _

theorem Twins.agree_session (h : P.Twins kind c₁ c₂) {f₁ : Session → Action ω₁ α}
    {f₂ : Session → Action ω₂ α} {Q : Attempt α → Client ω₁ → Client ω₂ → Prop}
    (hf : Agree (f₁ c₁.session) (f₂ (c₁.session.twin P.compressing)) c₁ c₂ Q) :
    Agree (Action.session >>= f₁) (Action.session >>= f₂) c₁ c₂ Q := by
  show Agree (f₁ c₁.session) (f₂ c₂.session) c₁ c₂ Q
  rwa [h.session]

/-- What is done with the session goes alike for a session and its twin. -/
theorem parallel_session {f₁ : Session → Action ω₁ α} {f₂ : Session → Action ω₂ α}
    (h : ∀ s : Session, s.Plain → Parallel P.Twinned (f₁ s) (f₂ (s.twin P.compressing))) :
    Parallel P.Twinned (Action.session >>= f₁) (Action.session >>= f₂) := by
  rintro c₁ c₂ ⟨kind, hc⟩
  exact hc.agree_session (h _ hc.plain _ _ ⟨kind, hc⟩)

end Pairing

/-! ### Exchanges -/

namespace Session

open ExaWire.Action

theorem parallel_breakFor (what why : String) :
    Parallel (P.Twins kind) (breakFor what why) (breakFor what why) := by
  refine .bind (parallel_setSession (fun _ hs => ⟨hs.unset, hs.uncompressed⟩) fun _ => rfl) fun _ => ?_
  exact .bind (parallel_note _ _) fun _ => .pure _

theorem parallel_orBreak (r : Attempt α) : Parallel (P.Twins kind) (orBreak r) (orBreak r) := by
  cases r with
  | ok a => exact .pure a
  | error f => exact .bind (parallel_breakFor _ _) fun _ => .throw _

/-- Requests of twins are written alike; once they are, the second far end answers in kind. -/
theorem agree_write {request₁ request₂ : Value}
    (requests : Command.Twin P.compressing request₁ request₂) (h : P.Twins kind c₁ c₂) :
    Agree (write P.env request₁) (write P.twinEnv request₂) c₁ c₂ fun r t₁ t₂ =>
      ∃ kind, P.Twins kind t₁ t₂ ∧ (r = .ok () → kind = P.compressing) := by
  refine h.agree_session ?_
  rw [h.plain.uncompressed]
  obtain ⟨f, e₁, e₂⟩ | ⟨payload₁, payload₂, e₁, e₂, frames⟩ := requests.encode P.env.codec
  · exact .ofAttempt_error e₁ e₂ ⟨kind, h, nofun⟩
  · refine .ofAttempt_ok e₁ e₂ ?_
    rw [requests.nameOf]
    cases e : nameOf request₁ with
    | error f => exact ⟨rfl, kind, h, nofun⟩
    | ok name =>
      refine .ofAttempt_ok rfl rfl ?_
      refine (parallel_note .debug ("-> " ++ name) c₁ c₂ h).bind (fun _ _ _ h₁ => ?_)
        fun _ _ _ h₁ => ⟨kind, h₁, nofun⟩
      refine .attempt (Channel.agree_send h₁ frames) fun r t₁ t₂ sent => ?_
      exact (parallel_orBreak r t₁ t₂ sent).mono fun _ _ _ twins => ⟨_, twins, fun _ => rfl⟩

/-- When one wait goes on to ask its channel, so does the other, and is answered the same. -/
theorem twins_round {scope : ScopeId} (h : P.Twins kind c₁ c₂) (goesOn : (c₁.poll scope).1 = none)
    {answer : Attempt Bool} (answered : (Channel.poll P.env (c₁.poll scope).2).1 = answer) :
    ∃ c₂', (c₂.poll scope).1 = none ∧ Channel.poll P.twinEnv (c₂.poll scope).2 = (answer, c₂') ∧
      P.Twins kind (Channel.poll P.env (c₁.poll scope).2).2 c₂' := by
  obtain ⟨same, polled⟩ := h.poll scope
  obtain ⟨alike, asked⟩ := Channel.twins_poll polled
  exact ⟨_, same.symm.trans goesOn, Prod.ext (alike.symm.trans answered) rfl, asked⟩

theorem twins_await (scope : ScopeId) (h : P.Twins kind c₁ c₂) :
    (await P.env scope c₁).1 = (await P.twinEnv scope c₂).1 ∧
      P.Twins kind (await P.env scope c₁).2 (await P.twinEnv scope c₂).2 := by
  -- each round of the one wait is a round of the other: both ask the same scope, and channels
  -- that are ready together
  fun_induction await P.env scope c₁ generalizing c₂ with
  | case1 c₁ cause cancelled =>
    obtain ⟨same, polled⟩ := h.poll scope
    rw [await, ← same, cancelled]
    exact ⟨rfl, polled⟩
  | case2 c₁ goesOn f failed =>
    obtain ⟨c₂', goesOn', answered, asked⟩ := twins_round h goesOn failed
    rw [await_round goesOn', answered]
    exact ⟨rfl, asked⟩
  | case3 c₁ goesOn ready =>
    obtain ⟨c₂', goesOn', answered, asked⟩ := twins_round h goesOn ready
    rw [await_round goesOn', answered]
    exact ⟨rfl, asked⟩
  | case4 c₁ goesOn notReady ih =>
    obtain ⟨c₂', goesOn', answered, asked⟩ := twins_round h goesOn notReady
    rw [await_round goesOn', answered]
    exact ih (asked.advance _)

theorem parallel_abort (cause : Cause) :
    Parallel (P.Twins P.compressing) (abort P.env cause : Action ω₁ α) (abort P.twinEnv cause) := by
  refine .bind (parallel_setSession (fun _ hs => ⟨hs.unset, hs.uncompressed⟩) fun _ => rfl) fun _ => ?_
  refine .bind (parallel_note _ _) fun _ c₁ c₂ h => ?_
  refine h.agree_session ?_
  rw [h.plain.uncompressed]
  have requests : Command.Twin P.compressing Command.abortQuery Command.abortQuery := .same _
  obtain ⟨f, e₁, e₂⟩ | ⟨payload₁, payload₂, e₁, e₂, frames⟩ := requests.encode P.env.codec
  · exact .ofAttempt_error e₁ e₂ h
  · refine .ofAttempt_ok e₁ e₂ ?_
    refine .attempt (Channel.agree_send h frames) fun r t₁ t₂ sent => ?_
    rcases r with f | ⟨⟩
    · exact .throw sent
    · exact .throw sent

/-- A reply that came dressed is read as the reply that did not. -/
theorem decode_dress (bs : Bytes) :
    decode P.env.codec P.compressing (P.env.codec.dress P.compressing bs) =
      decode P.env.codec false bs := by
  unfold decode Codec.dress
  cases P.compressing with
  | false => rfl
  | true => simp only [if_true, P.lossless, Bool.false_eq_true, if_false]

/-- What is made of a payload that was received. -/
def readPayload {ω : Type} (env : Environment ω) (payload : Bytes) :
    Action ω (List (Value × Value)) := do
  match decode env.codec (← session).compressing payload with
  | .ok entries => return entries
  | .error u => throw (← breakFor u.what u.why)

theorem orBreak_error_bind {ω : Type} (f : Failure) (k : α → Action ω β) :
    orBreak (.error f) >>= k = orBreak (.error f) := rfl

theorem read_apply {ω : Type} (env : Environment ω) (c : Client ω) :
    read env c = (orBreak (Channel.receive env c).1 >>= readPayload env) (Channel.receive env c).2 := rfl

theorem agree_readPayload (h : P.Twins P.compressing c₁ c₂) (bs : Bytes) :
    Agree (readPayload P.env bs) (readPayload P.twinEnv (P.env.codec.dress P.compressing bs)) c₁ c₂
      fun _ => P.Twins P.compressing := by
  refine h.agree_session ?_
  show Agree (match decode P.env.codec c₁.session.compressing bs with | .ok _ => _ | .error _ => _)
    (match decode P.env.codec P.compressing (P.env.codec.dress P.compressing bs) with
      | .ok _ => _ | .error _ => _) c₁ c₂ _
  rw [h.plain.uncompressed, decode_dress]
  cases decode P.env.codec false bs with
  | ok entries => exact .pure h
  | error u => exact Parallel.bind (parallel_breakFor _ _) (fun _ => .throw _) c₁ c₂ h

theorem parallel_read : Parallel (P.Twins P.compressing) (read P.env) (read P.twinEnv) := by
  intro c₁ c₂ h
  obtain ⟨given, received⟩ := Channel.twins_receive h
  -- what is received is not the same on both sides, but what is read from it is
  unfold Agree
  rw [read_apply, read_apply, given]
  generalize (Channel.receive P.env c₁).1 = r, (Channel.receive P.env c₁).2 = t₁,
    (Channel.receive P.twinEnv c₂).2 = t₂ at received ⊢
  cases r with
  | error f =>
    show Agree (orBreak (.error f) >>= readPayload P.env) (orBreak (.error f) >>= readPayload P.twinEnv)
      t₁ t₂ fun _ => P.Twins P.compressing
    rw [orBreak_error_bind, orBreak_error_bind]
    exact parallel_orBreak (.error f) t₁ t₂ received
  | ok bs => exact agree_readPayload received bs

theorem parallel_reply (scope : Option ScopeId) :
    Parallel (P.Twins P.compressing) (reply P.env scope) (reply P.twinEnv scope) := by
  cases scope with
  | none => exact parallel_read
  | some scope =>
    intro c₁ c₂ h
    obtain ⟨same, waited⟩ := twins_await scope h
    -- the wait itself does not fail, it only tells how it ended
    have waits : Agree
        (fun c => (.ok (await P.env scope c).1, (await P.env scope c).2) : Action ω₁ Waited)
        (fun c => (.ok (await P.twinEnv scope c).1, (await P.twinEnv scope c).2) : Action ω₂ Waited)
        c₁ c₂ fun _ => P.Twins P.compressing := ⟨congrArg Except.ok same, waited⟩
    refine waits.bind (fun waited t₁ t₂ h => ?_) fun _ _ _ h => h
    cases waited with
    | ready => exact parallel_read _ _ h
    | cancelled cause => exact parallel_abort cause _ _ h
    | failed f => exact parallel_orBreak (.error f) _ _ h

/-- Requests of twins are exchanged alike. -/
theorem parallel_exchange {request₁ request₂ : Value}
    (requests : Command.Twin P.compressing request₁ request₂) (scope : Option ScopeId) :
    Parallel P.Twinned (exchange P.env request₁ scope) (exchange P.twinEnv request₂ scope) := by
  refine parallel_session fun s _ => ?_
  have usable : (s.twin P.compressing).usable request₂ = s.usable request₁ := requests.usable s
  rw [usable]
  refine .bind (.ofAttempt _) fun _ c₁ c₂ ⟨kind, h⟩ => ?_
  refine (agree_write requests h).bind ?_ ?_
  · rintro ⟨⟩ t₁ t₂ ⟨kind, twins, inKind⟩
    rw [inKind rfl] at twins
    exact (parallel_reply scope t₁ t₂ twins).mono fun _ _ _ h => h.twinned
  · rintro f t₁ t₂ ⟨kind, twins, -⟩
    exact ⟨kind, twins⟩

theorem parallel_send {request₁ request₂ : Value}
    (requests : Command.Twin P.compressing request₁ request₂) (read : Value → Attempt α)
    (scope : Option ScopeId) :
    Parallel P.Twinned (send P.env request₁ read scope) (send P.twinEnv request₂ read scope) := by
  have marked (outstanding : Bool) : Parallel P.Twinned
      (setSession fun s => { s with outstanding }) (setSession fun s => { s with outstanding }) :=
    parallel_twinned fun _ => parallel_setSession (fun _ hs => ⟨hs.unset, hs.uncompressed⟩) fun _ => rfl
  refine parallel_session fun s _ => .bind (.ofAttempt s.grant) fun _ => ?_
  refine .bind (marked true) fun _ => .bind (.attempt (parallel_exchange requests scope)) fun r => ?_
  refine .bind (marked false) fun _ => .bind (.ofAttempt r) fun entries => ?_
  exact .ofAttempt (answer read entries)

/-! ### The end of a session -/

theorem parallel_shutdown : Parallel P.Twinned (shutdown P.env) (shutdown P.twinEnv) := by
  refine parallel_session fun s _ => .bind ?_ fun _ => .ite Channel.parallel_close (.pure _)
  exact parallel_twinned fun _ =>
    parallel_setSession (fun _ hs => ⟨hs.unset, hs.uncompressed⟩) fun _ => rfl

theorem parallel_write (request : Value) :
    Parallel P.Twinned (write P.env request) (write P.twinEnv request) := by
  rintro c₁ c₂ ⟨kind, h⟩
  exact (agree_write (.same request) h).mono fun _ _ _ ⟨kind, twins, _⟩ => ⟨kind, twins⟩

theorem parallel_closeSession : Parallel P.Twinned (close P.env) (close P.twinEnv) := by
  refine parallel_session fun s _ => .ite (.pure _) ?_
  refine .ite (.bind (.attempt (parallel_write _)) fun r => ?_) parallel_shutdown
  cases r with
  | ok _ => exact parallel_shutdown
  | error f =>
    refine .ite ?_ (.throw f)
    exact .bind (parallel_twinned fun _ => parallel_note _ _) fun _ => parallel_shutdown

end Session

/-! ### The beginning of a session -/

namespace Login

/-- The flag for compression is the second one of the attributes, which are the eighth entry of the
second request of a login; nothing else in that request depends on it. -/
theorem flagged_introduction (station : Workstation) (c : Config) (fields : List (String × Value)) :
    ∃ before behind earlier later, ∀ compression,
      Value.ofFields (introduction station { c with compression } ++ fields) =
        Command.flagged before behind earlier later compression := by
  let entry (field : String × Value) : Value × Value := (.text field.1, field.2)
  let setting (key : String) (v : Value) := if v.isGiven then [(key, v)] else []
  refine ⟨((introduction station c).take 7).map entry,
    ((introduction station c).drop 8 ++ fields).map entry,
    [(.text "autocommit", .bool c.autocommit)],
    (setting "currentSchema" (.text c.schema) ++ setting "queryTimeout" (.int c.queryTimeout) ++
      setting "resultSetMaxRows" .null).map entry, fun compression => ?_⟩
  rfl

theorem twin_introduction (station : Workstation) {c : Config} (unset : c.compression = false)
    (fields : List (String × Value)) :
    Command.Twin false (.ofFields (introduction station c ++ fields))
      (.ofFields (introduction station { c with compression := true } ++ fields)) := by
  obtain ⟨before, behind, earlier, later, flagged⟩ := flagged_introduction station c fields
  have same : { c with compression := false } = c := by rw [← unset]
  rw [flagged true, ← same, flagged false]
  exact .flagged before behind earlier later

theorem twin_request (padding : Padding) (station : Workstation) {c : Config}
    (unset : c.compression = false) (key : Option KeyReply) :
    (∃ f, (request padding station c key).2 = .error f ∧
      (request padding station { c with compression := true } key).2 = .error f) ∨
    ∃ request₁ request₂, (request padding station c key).2 = .ok request₁ ∧
      (request padding station { c with compression := true } key).2 = .ok request₂ ∧
      Command.Twin false request₁ request₂ := by
  have made (c : Config) : (request padding station c key).2 =
      (credentials padding c key).2.map fun fields => .ofFields (introduction station c ++ fields) := rfl
  have same : credentials padding { c with compression := true } key = credentials padding c key := rfl
  rw [made, made, same]
  cases (credentials padding c key).2 with
  | error f => exact .inl ⟨f, rfl, rfl⟩
  | ok fields => exact .inr ⟨_, _, rfl, rfl, twin_introduction station unset fields⟩

end Login

namespace Pairing

/-- The same two clients from now on, when the second one compresses or not. -/
def onward (P : Pairing ω₁ ω₂) (compressing : Bool) (c₁ : Client ω₁) (c₂ : Client ω₂) :
    Pairing ω₁ ω₂ :=
  { P with compressing, past₁ := c₁.happenings, past₂ := c₂.happenings }

theorem news_onward (compressing : Bool) :
    (P.onward compressing c₁ c₂).News c₁.happenings c₂.happenings :=
  ⟨[], [], (List.append_nil _).symm, (List.append_nil _).symm, .nil⟩

theorem Twinned.onward (h : P.Twinned c₁ c₂) : (P.onward P.compressing c₁ c₂).Twinned c₁ c₂ := by
  obtain ⟨kind, h⟩ := h
  exact ⟨kind, h.plain, h.wires, news_onward _, h.twin⟩

/-- The second session begins to compress when both take up their settings. -/
theorem Twins.compress (h : P.Twins kind c₁ c₂) (info : LoginReply) :
    (P.onward true c₁ c₂).Twins kind
      { c₁ with session := { c₁.session with
          compressing := c₁.session.config.compression, info := some info } }
      { c₂ with session := { c₂.session with
          compressing := c₂.session.config.compression, info := some info } } where
  plain := ⟨h.plain.unset, h.plain.unset⟩
  wires := h.wires
  news := news_onward true
  twin := by
    let begun := { c₁.session with compressing := c₁.session.config.compression, info := some info }
    rw [h.session]
    exact congrArg (fun c : Client ω₂ => { c with session := begun.twin true }) h.twin

theorem Twinned.news (h : P.Twinned c₁ c₂) : P.News c₁.happenings c₂.happenings := by
  obtain ⟨kind, h⟩ := h
  exact h.news

end Pairing

namespace Session

open ExaWire.Action

theorem parallel_introduce (unset : P.compressing = false) {s : Session} (plain : s.Plain)
    (key : Option KeyReply) (scope : Option ScopeId) :
    Parallel P.Twinned (introduce P.env s.config key scope)
      (introduce P.twinEnv (s.twin P.compressing).config key scope) := by
  refine .bind ?_ fun _ c₁ c₂ h => ?_
  · exact parallel_twinned fun _ => .update fun _ _ h => h.annotate _
  · obtain ⟨f, e₁, e₂⟩ | ⟨request₁, request₂, e₁, e₂, requests⟩ :=
      Login.twin_request P.env.padding P.env.station plain.unset key
    · exact .ofAttempt_error e₁ e₂ h
    · refine .ofAttempt_ok e₁ e₂ ?_
      rw [← unset] at requests
      exact parallel_send requests _ scope c₁ c₂ h

theorem parallel_converse (unset : P.compressing = false) (scope : Option ScopeId) :
    Parallel P.Twinned (converse P.env scope) (converse P.twinEnv scope) := by
  rw [converse_eq, converse_eq]
  refine parallel_session fun s plain => ?_
  have opening {α : Type} (read : Value → Attempt α) :=
    parallel_send (P := P) (.same (Login.opening s.config)) read scope
  refine .ite (.bind (opening noData) fun _ => ?_) (.bind (.map some (opening KeyReply.ofValue)) ?_)
  · exact parallel_introduce unset plain none scope
  · exact fun key => parallel_introduce unset plain key scope

/-- How two logins end: nothing is compressed so far, and the second session compresses from now
on if it was let in. -/
theorem agree_login (unset : P.compressing = false) (scope : Option ScopeId) (h : P.Twinned c₁ c₂) :
    Agree (login P.env scope) (login P.twinEnv scope) c₁ c₂ fun r t₁ t₂ =>
      P.News t₁.happenings t₂.happenings ∧ (P.onward r.toBool t₁ t₂).Twinned t₁ t₂ := by
  have opens : Parallel P.Twinned (setSession fun s => { s with phase := .open, compressing := false })
      (setSession fun s => { s with phase := .open, compressing := false }) :=
    parallel_twinned fun _ => parallel_setSession (fun _ hs => ⟨hs.unset, rfl⟩) fun s => by
      rw [unset]
      rfl
  -- a login that fails leaves both sessions as they are, uncompressed
  have failed {f : Failure} {t₁ : Client ω₁} {t₂ : Client ω₂} (twins : P.Twinned t₁ t₂) :
      P.News t₁.happenings t₂.happenings ∧
        (P.onward (Except.error f : Attempt LoginReply).toBool t₁ t₂).Twinned t₁ t₂ := by
    have onward := twins.onward
    rw [unset] at onward
    exact ⟨twins.news, onward⟩
  refine (opens c₁ c₂ h).bind (fun _ d₁ d₂ h => ?_) fun f _ _ h => failed h
  refine .attempt (parallel_converse unset scope d₁ d₂ h) fun r t₁ t₂ twins => ?_
  cases r with
  | ok info =>
    obtain ⟨kind, twins⟩ := twins
    have letIn := twins.compress info
    refine ⟨rfl, twins.news, kind, ?_⟩
    exact letIn.annotate _
  | error f =>
    refine .ite ⟨rfl, failed twins⟩ ?_
    exact (parallel_shutdown t₁ t₂ twins).bind (fun _ _ _ h => .throw (failed h))
      fun _ _ _ h => failed h

end Session

end ExaWire
