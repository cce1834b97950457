/-
ExaWire/Proofs/Session/Exchange.lean

How a request ends.

There are three ways, told apart by `Sending`:

* *refused*: nothing was done, and the client is what it was;
* *failed*: the session is broken, and what was added to the trace is one of the
  four beginnings of an exchange that `CutShort` lists;
* *answered*: the session is what it was, the frame of the request and then one
  reply were added to the trace, and the result was read from that very reply.

A failure that repeats what a reply says (`Failure.isAnswer`) comes from an answer
only.
-/
import ExaWire.Proofs.Session.Trace
import ExaWire.Proofs.Session.Unanswered

namespace ExaWire

open Network

variable {ω α β : Type}

/-! ### Channels -/

namespace Channel

/-- How the writing of a frame ends. -/
inductive Sent (env : Environment ω) (frame : Frame) (c : Client ω) :
    Attempt Unit → Client ω → Prop
  | refused {text f c'} (why : (env.wire.send frame c.wire).result = .error text)
      (h : c.Steady c') : Sent env frame c (.error f) c'
  | taken {c'} (taken : (env.wire.send frame c.wire).result = .ok ())
      (wire : c'.wire = (env.wire.send frame c.wire).rest)
      (h : c.Goes c' c.session [.sent frame]) : Sent env frame c (.ok ()) c'

theorem ends_send (env : Environment ω) (frame : Frame) (c : Client ω) :
    Ends (send env frame) c (Sent env frame c) := by
  unfold Ends send
  rcases e : (env.wire.send frame c.wire).result with text | ⟨⟩
  · simp only [e]
    exact .refused e (c.steady_after _)
  · simp only [e]
    exact .taken e rfl
      (.afterSteady (c.steady_after _) (Client.goes_record _ (by simp [Happening.ofChannel])))

/-- How the reading of a reply ends. -/
inductive Received (env : Environment ω) (c : Client ω) : Attempt Bytes → Client ω → Prop
  | failed {f c'} (why : ∀ bs, (env.wire.receive c.wire).result ≠ .ok (some bs))
      (h : c.Steady c') : Received env c (.error f) c'
  | given {bs c'} (given : (env.wire.receive c.wire).result = .ok (some bs))
      (wire : c'.wire = (env.wire.receive c.wire).rest)
      (h : c.Goes c' c.session [.received bs]) : Received env c (.ok bs) c'

theorem ends_receive (env : Environment ω) (c : Client ω) :
    Ends (receive env) c (Received env c) := by
  unfold Ends receive
  rcases e : (env.wire.receive c.wire).result with text | - | bs
  · simp only [e]
    exact .failed (by simp [e]) (c.steady_after _)
  · simp only [e]
    exact .failed (by simp [e]) (c.steady_after _)
  · simp only [e]
    exact .given e rfl
      (.afterSteady (c.steady_after _) (Client.goes_record _ (by simp [Happening.ofChannel])))

/-- The wire after any number of polls. -/
def Polled (env : Environment ω) : ω → ω → Prop :=
  Relation.ReflTransGen fun w w' => w' = (env.wire.poll w).rest

theorem polled_ask (env : Environment ω) (c : Client ω) :
    c.Steady (ask env c).2 ∧ Polled env c.wire (ask env c).2.wire := by
  unfold ask
  rcases e : (env.wire.poll c.wire).result with text | ready
  · simp only [e]
    exact ⟨c.steady_after _, .single rfl⟩
  · simp only [e]
    exact ⟨c.steady_after _, .single rfl⟩

theorem polled_poll (env : Environment ω) (c : Client ω) :
    c.Steady (poll env c).2 ∧ Polled env c.wire (poll env c).2.wire := by
  have still : c.Steady c ∧ Polled env c.wire c.wire := ⟨.refl c, .refl⟩
  unfold poll
  split
  · exact polled_ask env c
  · split
    · split
      · exact still
      · exact polled_ask env c
    · exact still

end Channel

/-! ### Requests -/

namespace Session

open ExaWire.Action

/-- A session, out of step with the server. -/
def broken (s : Session) : Session := { s with phase := .broken }

/-- Whether a session can carry a request. -/
structure Carries (s : Session) : Prop where
  isOpen : s.phase = .open
  attached : s.attached = true

variable {c : Client ω}

theorem ends_breakFor (what why : String) (c : Client ω) :
    Ends (breakFor what why) c fun r c' =>
      (∃ text, r = .ok (.of .broken text)) ∧ c.Goes c' c.session.broken [] := by
  refine .setSession (.note (.pure ⟨⟨_, rfl⟩, ?_⟩))
  exact ⟨rfl, rfl, by simp [Client.trace, Client.annotate]⟩

theorem ends_throw_breakFor (what why : String) (c : Client ω) :
    Ends (do throw (← breakFor what why) : Action ω α) c fun r c' =>
      (∃ text, r = .error (.of .broken text)) ∧ c.Goes c' c.session.broken [] := by
  refine (ends_breakFor what why c).bind ?_ ?_
  · rintro _ c' ⟨⟨text, ⟨⟩⟩, h⟩
    exact .throw ⟨⟨text, rfl⟩, h⟩
  · rintro _ c' ⟨⟨text, ⟨⟩⟩, h⟩

/-- How the writing of a request ends. -/
inductive Written (env : Environment ω) (request : Value) (c : Client ω) :
    Attempt Unit → Client ω → Prop
  | refused {f} (why : encode env.codec c.session.compressing request = .error f ∨
      nameOf request = .error f) : Written env request c (.error f) c
  | failed {payload text c'}
      (hp : encode env.codec c.session.compressing request = .ok payload)
      (h : c.Goes c' c.session.broken []) : Written env request c (.error (.of .broken text)) c'
  | done {payload c'} (hp : encode env.codec c.session.compressing request = .ok payload)
      (sent : Channel.Sent env ⟨payload, c.session.compressing⟩ c (.ok ()) c') :
      Written env request c (.ok ()) c'

theorem ends_write (env : Environment ω) (request : Value) (c : Client ω) :
    Ends (write env request) c (Written env request c) := by
  refine .session (.ofAttempt (fun payload hp => .ofAttempt (fun name hn => ?_) ?_) ?_)
  · have quiet := c.steady_annotate [⟨.debug, "-> " ++ name⟩]
    refine .note (.attempt (Channel.ends_send ..) ?_)
    rintro r c₁ (⟨-, h⟩ | ⟨taken, wire, h⟩)
    · refine (ends_throw_breakFor ..).mono ?_
      rintro r c₂ ⟨⟨text, rfl⟩, h₂⟩
      have session₁ : c₁.session = c.session := (quiet.steady h).session
      rw [session₁] at h₂
      exact .failed hp (.afterSteady (quiet.steady h) h₂)
    · exact .pure (.done hp (.taken taken wire (.afterSteady quiet h)))
  · exact fun f hf => .refused (.inr hf)
  · exact fun f hf => .refused (.inl hf)

/-- A round of a wait whose scope is not cancelled. -/
theorem await_round {env : Environment ω} {scope : ScopeId} (h : (c.poll scope).1 = none) :
    await env scope c = match Channel.poll env (c.poll scope).2 with
      | (.error f, c) => (.failed f, c)
      | (.ok true, c) => (.ready, c)
      | (.ok false, c) => await env scope c.idle := by
  rw [await, h]
  rcases e : Channel.poll env (c.poll scope).2 with ⟨f | ready, c'⟩
  · simp
  · cases ready <;> simp

theorem steady_await (env : Environment ω) (scope : ScopeId) (c : Client ω) :
    c.Steady (await env scope c).2 ∧ Channel.Polled env c.wire (await env scope c).2.wire := by
  -- a round polls the scope and then the channel; the upload that may go on in between
  -- touches neither session nor wire
  fun_induction await env scope c with
  | case1 c cause => exact ⟨c.steady_poll scope, .refl⟩
  | case2 c h f h' =>
    have ⟨hs, hw⟩ := Channel.polled_poll env (c.poll scope).2
    exact ⟨(c.steady_poll scope).steady hs, hw⟩
  | case3 c h h' =>
    have ⟨hs, hw⟩ := Channel.polled_poll env (c.poll scope).2
    exact ⟨(c.steady_poll scope).steady hs, hw⟩
  | case4 c h h' ih =>
    have ⟨hs, hw⟩ := Channel.polled_poll env (c.poll scope).2
    rw [Client.wire_idle] at ih
    exact ⟨(((c.steady_poll scope).steady hs).steady (Client.steady_advance _ _)).steady ih.1,
      hw.trans ih.2⟩

/-- What an exchange that breaks off adds to the trace once its own frame is written. -/
inductive BreaksOff (env : Environment ω) (compressing : Bool) : List Happening → Prop
  /-- the channel fails, or the abort cannot be sent -/
  | lost : BreaksOff env compressing []
  /-- the reply cannot be read -/
  | garbled (bs : Bytes) : BreaksOff env compressing [.received bs]
  /-- the wait was given up -/
  | aborted {payload} (h : encode env.codec compressing Command.abortQuery = .ok payload) :
    BreaksOff env compressing [.sent ⟨payload, compressing⟩]

/-- What an exchange that fails adds to the trace: nothing, or its own frame and what follows
it. -/
inductive CutShort (env : Environment ω) (frame : Frame) : List Happening → Prop
  | unsent : CutShort env frame []
  | written {news} (h : BreaksOff env frame.binary news) : CutShort env frame (.sent frame :: news)

/-- An exchange that is answered: its frame is taken, the reply that follows it is read, and
these two are the news. -/
structure Answers (env : Environment ω) (request : Value) (c : Client ω) (payload bs : Bytes)
    (entries : List (Value × Value)) (c' : Client ω) : Prop where
  carries : c.session.Carries
  encoded : encode env.codec c.session.compressing request = .ok payload
  taken : (env.wire.send ⟨payload, c.session.compressing⟩ c.wire).result = .ok ()
  given : ∃ w, Channel.Polled env (env.wire.send ⟨payload, c.session.compressing⟩ c.wire).rest w ∧
    (env.wire.receive w).result = .ok (some bs) ∧ c'.wire = (env.wire.receive w).rest
  decoded : decode env.codec c.session.compressing bs = .ok entries
  goes : c.Goes c' c.session [.sent ⟨payload, c.session.compressing⟩, .received bs]

/-- How the wait for the reply to a request ends. -/
inductive Replied (env : Environment ω) (c : Client ω) :
    Attempt (List (Value × Value)) → Client ω → Prop
  | failed {f c' news} (hf : f.isAnswer = false) (hn : BreaksOff env c.session.compressing news)
      (h : c.Goes c' c.session.broken news) : Replied env c (.error f) c'
  | given {bs entries w c'} (polled : Channel.Polled env c.wire w)
      (given : (env.wire.receive w).result = .ok (some bs))
      (wire : c'.wire = (env.wire.receive w).rest)
      (read : decode env.codec c.session.compressing bs = .ok entries)
      (h : c.Goes c' c.session [.received bs]) : Replied env c (.ok entries) c'

theorem Replied.afterSteady {env : Environment ω} {c c₁ c₂ : Client ω}
    {r : Attempt (List (Value × Value))} (hs : c.Steady c₁)
    (hw : Channel.Polled env c.wire c₁.wire) (h : Replied env c₁ r c₂) : Replied env c r c₂ := by
  have session₁ := hs.session
  cases h with
  | failed hf hn h =>
    rw [session₁] at hn h
    exact .failed hf hn (.afterSteady hs h)
  | given polled given wire read h =>
    rw [session₁] at read h
    exact .given (hw.trans polled) given wire read (.afterSteady hs h)

theorem ends_read (env : Environment ω) (c : Client ω) : Ends (read env) c (Replied env c) := by
  refine .attempt (Channel.ends_receive env c) ?_
  rintro r c₁ (⟨-, h⟩ | ⟨given, wire, h⟩)
  · refine Ends.bind (ends_throw_breakFor ..) ?_ ?_
    · rintro x c₂ ⟨⟨text, ⟨⟩⟩, -⟩
    · rintro f c₂ ⟨⟨text, ⟨⟩⟩, h₂⟩
      rw [h.session] at h₂
      exact .failed rfl .lost (.afterSteady h h₂)
  · rename_i bs
    have taken : (orBreak (.ok bs) : Action ω Bytes) = pure bs := rfl
    rw [taken, pure_bind]
    refine .session ?_
    rw [h.session]
    cases hd : decode env.codec c.session.compressing bs with
    | ok entries => exact .pure (.given .refl given wire hd h)
    | error u =>
      refine (ends_throw_breakFor ..).mono ?_
      rintro r c₂ ⟨⟨text, rfl⟩, h₂⟩
      rw [h.session] at h₂
      exact .failed rfl (.garbled bs) (h.trans h₂)

theorem ends_abort (env : Environment ω) (cause : Cause) (c : Client ω) :
    Ends (abort env cause : Action ω (List (Value × Value))) c (Replied env c) := by
  -- the session is broken before the abort is written, and so stays broken if that fails
  let c₁ := { c with session := c.session.broken }
  let c₂ := c₁.annotate
    [⟨.warn, "Request cancelled (" ++ cause.text ++ "), sending abortQuery"⟩]
  have h₂ : c.Goes c₂ c.session.broken [] :=
    ⟨rfl, rfl, by simp [Client.trace, Client.annotate, c₂, c₁]⟩
  refine .setSession (.note (.session (.ofAttempt (fun payload hp => ?_) fun f hf => ?_)))
  · refine .attempt (Channel.ends_send env _ c₂) ?_
    rintro r c₃ (⟨-, h⟩ | ⟨taken, wire, h⟩)
    · exact .throw (.failed rfl .lost (h₂.steady h))
    · exact .throw (.failed rfl (.aborted hp) (h₂.trans h))
  · exact .failed (unanswered_encode _ _ _ f hf) .lost h₂

theorem ends_reply (env : Environment ω) (scope : Option ScopeId) (c : Client ω) :
    Ends (reply env scope) c (Replied env c) := by
  cases scope with
  | none => exact ends_read env c
  | some scope =>
    obtain ⟨hs, hw⟩ := steady_await env scope c
    -- the wait itself does not fail, it only tells how it ended
    have waits : Ends (fun c => (.ok (await env scope c).1, (await env scope c).2) : Action ω Waited) c
        fun r c' => (∃ w, r = .ok w) ∧ c' = (await env scope c).2 := ⟨⟨_, rfl⟩, rfl⟩
    refine waits.bind ?_ ?_
    · rintro waited _ ⟨-, rfl⟩
      refine Ends.mono (P := Replied env (await env scope c).2) ?_ fun r c' h => .afterSteady hs hw h
      cases waited with
      | ready => exact ends_read env _
      | cancelled cause => exact ends_abort env cause _
      | failed f =>
        refine (ends_throw_breakFor ..).mono ?_
        rintro r c₂ ⟨⟨text, rfl⟩, h⟩
        exact .failed rfl .lost h
    · rintro f _ ⟨⟨_, ⟨⟩⟩, -⟩

/-- How an exchange ends: the news of its failures, and where the reply came from. -/
inductive Exchanged (env : Environment ω) (request : Value) (c : Client ω) :
    Attempt (List (Value × Value)) → Client ω → Prop
  | refused {f} (hf : f.isAnswer = false) : Exchanged env request c (.error f) c
  | failed {payload f c' news} (hf : f.isAnswer = false) (carries : c.session.Carries)
      (hp : encode env.codec c.session.compressing request = .ok payload)
      (hn : CutShort env ⟨payload, c.session.compressing⟩ news)
      (h : c.Goes c' c.session.broken news) : Exchanged env request c (.error f) c'
  | answered {payload bs entries c'} (h : Answers env request c payload bs entries c') :
      Exchanged env request c (.ok entries) c'

theorem carries_of_usable {s : Session} {request : Value} (h : s.usable request = .ok ()) :
    s.Carries := by
  unfold usable at h
  split at h
  · cases h
  · cases h
  · next e =>
    split at h
    · next ha => exact ⟨e, ha⟩
    · cases hm : request.member "command" <;> rw [hm] at h <;> cases h

theorem ends_exchange (env : Environment ω) (request : Value) (scope : Option ScopeId)
    (c : Client ω) : Ends (exchange env request scope) c (Exchanged env request c) := by
  refine .session (.ofAttempt (fun _ hu => ?_) fun f hf => .refused (unanswered_usable _ _ f hf))
  have carries := carries_of_usable hu
  refine (ends_write env request c).bind ?_ ?_
  · intro _ c₁ written
    -- from here on the frame is part of the trace, whatever becomes of the reply
    obtain _ | _ | ⟨hp, sent⟩ := written
    obtain _ | ⟨taken, wire, h⟩ := sent
    refine (ends_reply env scope c₁).mono ?_
    rintro r c₂ (⟨hf, hn, h₂⟩ | ⟨polled, given, wire₂, read, h₂⟩)
    · rw [h.session] at hn h₂
      exact .failed hf carries hp (.written hn) (h.trans h₂)
    · rw [h.session] at read h₂
      rw [wire] at polled
      exact .answered ⟨carries, hp, taken, ⟨_, polled, given, wire₂⟩, read, h.trans h₂⟩
  · rintro f c₁ ((hf | hf) | ⟨hp, h⟩)
    · exact .refused (unanswered_encode _ _ _ f hf)
    · exact .refused (unanswered_nameOf _ f hf)
    · exact .failed rfl carries hp .unsent h

/-- How a request ends. -/
inductive Sending (env : Environment ω) (request : Value) (read : Value → Attempt α)
    (c : Client ω) : Attempt α → Client ω → Prop
  | refused {f} (hf : f.isAnswer = false) : Sending env request read c (.error f) c
  | failed {payload f c' news} (hf : f.isAnswer = false) (carries : c.session.Carries)
      (hp : encode env.codec c.session.compressing request = .ok payload)
      (hn : CutShort env ⟨payload, c.session.compressing⟩ news)
      (h : c.Goes c' c.session.broken news) : Sending env request read c (.error f) c'
  | answered {payload bs entries c'} (h : Answers env request c payload bs entries c') :
      Sending env request read c (answer read entries) c'

theorem free_of_grant {s : Session} (h : s.grant = .ok ()) : s.outstanding = false := by
  unfold grant at h
  split at h
  · cases h
  · simp_all

theorem release {s : Session} (h : s.outstanding = false) :
    { { s with outstanding := true } with outstanding := false } = s := by
  cases s
  simp_all

theorem flag_free {s : Session} (h : s.outstanding = false) : { s with outstanding := false } = s := by
  rw [← release h]

/-- A client whose session is marked as having a request under way. -/
def marked (c : Client ω) : Client ω := { c with session := { c.session with outstanding := true } }

/-- A client whose session is not marked any more. -/
def unmarked (c : Client ω) : Client ω := { c with session := { c.session with outstanding := false } }

/-- What a client does between mark and release it does without them. -/
theorem goes_unmarked {c' : Client ω} {s : Session} {news : List Happening}
    (hs : { s with outstanding := false } = s)
    (h : (marked c).Goes c' { s with outstanding := true } news) : c.Goes (unmarked c') s news :=
  ⟨by simp only [unmarked, h.session]; exact hs, h.link, h.trace⟩

theorem Answers.unmark {env : Environment ω} {request : Value} {payload bs : Bytes}
    {entries : List (Value × Value)} {c' : Client ω} (free : c.session.outstanding = false)
    (h : Answers env request (marked c) payload bs entries c') :
    Answers env request c payload bs entries (unmarked c') :=
  ⟨⟨h.carries.isOpen, h.carries.attached⟩, h.encoded, h.taken, h.given, h.decoded,
    goes_unmarked (flag_free free) h.goes⟩

theorem unmarked_marked (free : c.session.outstanding = false) : unmarked (marked c) = c := by
  simp only [unmarked, marked, release free]

/-- A request is exchanged on a session that is marked, and the mark is taken off in the end. -/
theorem ends_send_marked {env : Environment ω} {request : Value} {read : Value → Attempt α}
    {scope : Option ScopeId} {Q : Attempt α → Client ω → Prop}
    {R : Attempt (List (Value × Value)) → Client ω → Prop}
    (exchanged : Ends (exchange env request scope) (marked c) R)
    (refused : ∀ f, c.session.grant = .error f → Q (.error f) c)
    (answered : c.session.outstanding = false →
      ∀ entries c', R (.ok entries) c' → Q (answer read entries) (unmarked c'))
    (failed : c.session.outstanding = false → ∀ f c', R (.error f) c' → Q (.error f) (unmarked c')) :
    Ends (send env request read scope) c Q := by
  refine .session (.ofAttempt (fun _ hg => ?_) refused)
  refine .setSession (.attempt exchanged fun r c₁ h => .setSession ?_)
  cases r with
  | ok entries => exact answered (free_of_grant hg) entries c₁ h
  | error f => exact failed (free_of_grant hg) f c₁ h

theorem flag_broken {s : Session} (free : s.outstanding = false) :
    { s.broken with outstanding := false } = s.broken := by
  rw [← release free]
  rfl

theorem ends_send (env : Environment ω) (request : Value) (read : Value → Attempt α)
    (scope : Option ScopeId) (c : Client ω) :
    Ends (send env request read scope) c (Sending env request read c) := by
  refine ends_send_marked (ends_exchange env request scope (marked c)) ?_ ?_ ?_
  · exact fun f hf => .refused (unanswered_grant _ f hf)
  · rintro free entries c₁ (_ | _ | h)
    exact .answered (h.unmark free)
  · rintro free f c₁ (hf | ⟨hf, carries, hp, hn, h⟩ | _)
    · rw [unmarked_marked free]
      exact .refused hf
    · exact .failed hf ⟨carries.isOpen, carries.attached⟩ hp hn (goes_unmarked (flag_broken free) h)

end Session

end ExaWire
