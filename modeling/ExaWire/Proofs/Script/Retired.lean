/-
ExaWire/Proofs/Script/Retired.lean

A retired session stays silent.

Once a call has left the session broken or closed, no later call reaches its channel,
except that one which closes a broken session closes the channel, too.  A course
closes its channel at most once, and has closed it once a call that closes the session
was made.

Farewell is said by the end of an open session, and nothing follows it.  A caller that
hands a disconnect to the session as a request of its own says it besides, without
closing anything, and may do so again and again.
-/
import ExaWire.Proofs.Script.Course
import ExaWire.Proofs.Session.Retirement

namespace ExaWire.Script

open Network Session
open Client (Path Settled Hushed Discreet)

variable {ω α : Type} {env : Environment ω} {P : Conduct} {F : Frame → Prop}

/-! ### Calls that close -/

theorem phase_closeSession (c : Client ω) :
    Ends (Session.close env) c fun _ c' => c'.session.phase = .closed :=
  (Session.ends_close env c).mono fun _ _ h => h.2.phase

theorem phase_closeConnection (c : Client ω) :
    Ends (Connection.close env) c fun _ c' => c'.session.phase = .closed := by
  refine .session ?_
  split
  · next h => exact .pure (by simpa [isClosed] using h)
  · exact .note (phase_closeSession _)

/-- A call that closes the session leaves it closed, whatever else it does. -/
theorem Call.phase_perform {call : Call} (h : call.closes = true) (name : String)
    (scope : Option ScopeId) {d : Dialogue ω} (hs : d.hasSession = true) :
    Ends (call.perform env name scope) d fun _ d' => d'.client.session.phase = .closed := by
  have closing {α : Type} {a : Action ω α} {f : α → Action ω Given}
      (ha : ∀ c, Ends a c fun _ c' => c'.session.phase = .closed)
      (hf : ∀ x c, Ends (f x) c fun _ c' => c' = c) :
      Ends (Stage.act (a >>= f)) d fun _ d' => d'.client.session.phase = .closed := by
    have ends : Ends (a >>= f) d.client fun _ c => c.session.phase = .closed := by
      refine (ha d.client).bind (fun x c hc => ?_) fun _ _ hc => hc
      exact (hf x c).mono fun _ _ hc' => by rwa [hc']
    exact (Stage.ends_act hs ends).mono fun _ _ ⟨_, h, _⟩ => h
  unfold Call.perform
  cases call with
  | closeSession => exact closing phase_closeSession fun _ _ => .pure rfl
  | guardSession => exact closing (fun _ => .guarded phase_closeSession) fun _ _ => .pure rfl
  | close => exact closing phase_closeConnection fun _ _ => .pure rfl
  | guardConnection => exact closing (fun _ => .guarded phase_closeConnection) fun _ _ => .pure rfl
  | _ => cases h

/-! ### Settled dialogues -/

/-- The conduct of a course: the requests of the library and of a login, and those that the
caller hands over as they are. -/
def courseConduct (moves : List (Move ω)) : Conduct where
  sends request := Login.IsRequest request ∨ Command.IsOwn request ∨
    ∃ m ∈ moves, m.call.request? = some request
  closes := True

theorem keeps_courseConduct {moves : List (Move ω)} (operate : ∀ m ∈ moves, m.call.isOperation = true) :
    ∀ m ∈ moves, m.call.Keeps (courseConduct moves) := fun m hm =>
  ⟨operate m hm, fun _ hr => .inr (hr.imp_right fun h => ⟨m, hm, h⟩), fun _ => trivial⟩

/-- One client comes from another and is settled if that one was. -/
def Settles (env : Environment ω) (F : Frame → Prop) (c c' : Client ω) : Prop :=
  c.Settled env F → c'.Settled env F

instance : IsPreorder (Client ω) (Settles env F) where
  refl _ h := h
  trans _ _ _ h h' hs := h' (h hs)

theorem Dialogue.settled_after {moves : List (Move ω)} (keeps : ∀ m ∈ moves, m.call.Keeps P)
    (writes : P.Writes env F) {d : Dialogue ω} (h : d.client.Settled env F) :
    (d.after env moves).client.Settled env F := by
  have relates : Settles env F d.client (d.after env moves).client :=
    Dialogue.after_relates (fun m _ c hs => hs.steady (m.steady_meet c))
      (fun _ _ path hs => hs.path writes path) keeps d
  exact relates h

theorem Dialogue.settled_make {m : Move ω} (keeps : m.call.Keeps P) (writes : P.Writes env F)
    {d : Dialogue ω} (h : d.client.Settled env F) : (d.make env m).2.client.Settled env F :=
  (h.steady (m.steady_meet _)).path writes (d.leg_make keeps).path

/-- A login on a fresh channel settles the client. -/
theorem settled_onChannel {config : Config} {url : Option String} {wire : ω} {scopes : Scopes}
    {scope : Option ScopeId} (writes : P.Writes env F)
    (hP : ∀ request, Login.IsRequest request → P.sends request) :
    (Session.login env scope (onChannel config url wire scopes)).2.Settled env F := by
  refine Client.settled_login writes hP scope rfl rfl ?_ rfl
  cases url <;> rfl

theorem settled_course {config : Config} {url : Option String} {wire : ω} {scopes : Scopes}
    {scope : Option ScopeId} {moves : List (Move ω)}
    (operate : ∀ m ∈ moves, m.call.isOperation = true) (writes : (courseConduct moves).Writes env F) :
    (course env (onChannel config url wire scopes) scope moves).client.Settled env F := by
  refine Dialogue.settled_after (keeps_courseConduct operate) writes ?_
  exact settled_onChannel writes fun _ h => .inl h

theorem Dialogue.hasSession_after {moves : List (Move ω)}
    (operate : ∀ m ∈ moves, m.call.isOperation = true) (d : Dialogue ω) :
    (d.after env moves).hasSession = d.hasSession := by
  induction moves generalizing d with
  | nil => rfl
  | cons m moves ih =>
    obtain ⟨hm, hmoves⟩ := List.forall_mem_cons.1 operate
    exact (ih hmoves _).trans (d.leg_make (Call.keeps_any hm)).hasSession

/-! ### Retirement -/

/-- What further calls can do to a client whose session is not open: its session and all that
happened on its channel stay, or its broken session is closed by a call that closes. -/
inductive Silent (K : Prop) (c c' : Client ω) : Prop
  | still (phase : c'.session.phase = c.session.phase) (trace : c'.trace = c.trace)
  | closed (closes : K) (broken : c.session.phase = .broken) (phase : c'.session.phase = .closed)
      (trace : c'.trace = c.trace ++ [.detached])

theorem writes_any (P : Conduct) : P.Writes env fun _ => True := fun _ _ _ _ _ => trivial

theorem Dialogue.hushed_make {m : Move ω} (operates : m.call.isOperation = true) {d : Dialogue ω}
    (h : d.client.session.phase ≠ .open) (settled : d.client.Settled env F) :
    Hushed env ⟨fun _ => True, m.call.closes = true⟩ (m.meet d.client) (d.make env m).2.client := by
  have keeps : m.call.Keeps ⟨fun _ => True, m.call.closes = true⟩ :=
    ⟨operates, fun _ _ => trivial, fun hc => hc⟩
  exact Client.hushed_path h (settled.steady (m.steady_meet _)) (d.leg_make keeps).path

theorem Dialogue.silent_after {more : List (Move ω)} (operate : ∀ m ∈ more, m.call.isOperation = true)
    {d : Dialogue ω} (h : d.client.session.phase ≠ .open)
    (settled : d.client.Settled env fun _ => True) :
    Silent (∃ m ∈ more, m.call.closes = true) d.client (d.after env more).client := by
  induction more generalizing d with
  | nil => exact .still rfl rfl
  | cons m more ih =>
    obtain ⟨hm, hmore⟩ := List.forall_mem_cons.1 operate
    have hushed := Dialogue.hushed_make hm h settled
    have settled' : (d.make env m).2.client.Settled env fun _ => True :=
      Dialogue.settled_make (Call.keeps_any hm) (writes_any _) settled
    cases hushed with
    | still hs wire =>
      have phase : (d.make env m).2.client.session.phase = d.client.session.phase := by rw [hs.session]; rfl
      have trace : (d.make env m).2.client.trace = d.client.trace := by
        rw [hs.trace, List.append_nil]; rfl
      cases ih hmore (by rwa [phase]) settled' with
      | still phase' trace' => exact .still (phase'.trans phase) (trace'.trans trace)
      | closed closes broken phase' trace' =>
        obtain ⟨n, hn, hc⟩ := closes
        refine .closed ⟨n, .tail _ hn, hc⟩ (phase ▸ broken) phase' (trace'.trans ?_)
        rw [trace]
    | closed closes broken phase trace =>
      cases ih hmore (by simp [phase]) settled' with
      | still phase' trace' =>
        exact .closed ⟨m, .head _, closes⟩ broken (phase'.trans phase) (trace'.trans trace)
      | closed _ broken' => cases phase.symm.trans broken'

/-- A course that made a call that closes the session leaves it closed. -/
theorem Dialogue.phase_after {moves : List (Move ω)}
    (operate : ∀ m ∈ moves, m.call.isOperation = true) {d : Dialogue ω}
    (hs : d.hasSession = true) (settled : d.client.Settled env fun _ => True)
    (closes : ∃ m ∈ moves, m.call.closes = true) :
    (d.after env moves).client.session.phase = .closed := by
  obtain ⟨m, hm, hc⟩ := closes
  obtain ⟨before, behind, rfl⟩ := List.append_of_mem hm
  obtain ⟨hbefore, hrest⟩ := List.forall_mem_append.1 operate
  obtain ⟨hm, hbehind⟩ := List.forall_mem_cons.1 hrest
  let e := d.after env before
  have closed : (e.make env m).2.client.session.phase = .closed :=
    Call.phase_perform hc m.name m.scope ((Dialogue.hasSession_after hbefore d).trans hs)
  have reached : e.client.Settled env fun _ => True :=
    Dialogue.settled_after (fun n hn => Call.keeps_any (hbefore n hn)) (writes_any _) settled
  have settled' : (e.make env m).2.client.Settled env fun _ => True :=
    Dialogue.settled_make (Call.keeps_any hm) (writes_any _) reached
  rw [Dialogue.after_append]
  show ((e.make env m).2.after env behind).client.session.phase = .closed
  cases Dialogue.silent_after hbehind (by simp [closed]) settled' with
  | still phase => rw [phase, closed]
  | closed _ _ phase => exact phase

/-- Farewell is said at most once, by the end of an open session, and nothing follows it. -/
structure Farewells (env : Environment ω) (start c : Client ω) : Prop where
  byClosing : Relation.ReflTransGen (Discreet env) start c
  last : ∃ earlier last, c.frames = earlier ++ last ∧
    (∀ frame ∈ earlier, frame.isFarewell env.codec = false) ∧
    (last = [] ∨ ∃ bye : Frame, bye.isFarewell env.codec = true ∧ last = [bye] ∧
      c.session.phase = .closed)

/-- What holds of a dialogue after a course. -/
structure Retirement (env : Environment ω) (start : Client ω) (moves : List (Move ω))
    (d : Dialogue ω) : Prop where
  /-- once the session is not open, further calls neither write nor read, and of all changes of
  its phase only the closing of a broken session is left -/
  silent : d.client.session.phase ≠ .open → ∀ more : List (Move ω),
    (∀ m ∈ more, m.call.isOperation = true) →
      Silent (∃ m ∈ more, m.call.closes = true) d.client (d.after env more).client
  /-- they do not touch the channel at all, except that the closing of a broken session closes
  it -/
  untouched : d.client.session.phase ≠ .open → ∀ m : Move ω, m.call.isOperation = true →
    (d.make env m).2.client.wire = (m.meet d.client).wire ∨
    m.call.closes = true ∧ d.client.session.phase = .broken ∧
      (d.make env m).2.client.wire = (env.wire.close (m.meet d.client).wire).rest
  broken : d.client.session.phase = .broken →
    ∀ {α : Type} (request : Value) (read : Value → Attempt α) (scope : Option ScopeId),
      Session.send env request read scope d.client =
        (.error (.of .broken "session is out of sync after a failure and must be recreated"), d.client)
  closed : d.client.session.phase = .closed →
    ∀ {α : Type} (request : Value) (read : Value → Attempt α) (scope : Option ScopeId),
      Session.send env request read scope d.client = (.error closedFailure, d.client)
  /-- the channel is closed at most once, and was closed once the session was -/
  closings : d.client.closings ≤ 1
  closes : (∃ m ∈ moves, m.call.closes = true) →
    d.client.session.phase = .closed ∧ d.client.closings = 1
  /-- closing a closed session changes nothing -/
  again : d.client.session.phase = .closed →
    Session.close env d.client = (.ok (), d.client) ∧
    Connection.close env d.client = (.ok (), d.client)
  /-- unless the caller hands over a disconnect as a request of its own -/
  farewell : (∀ bs, env.codec.inflate? (env.codec.deflate bs) = some bs) →
    (∀ m ∈ moves, ∀ request, m.call.request? = some request →
      encode env.codec false request ≠ encode env.codec false Command.disconnect) →
    Farewells env start d.client

theorem send_of_usable {c : Client ω} {f : Failure} (h : c.session.phase ≠ .open)
    (settled : c.Settled env F) {request : Value} (fails : c.session.usable request = .error f)
    (read : Value → Attempt α) (scope : Option ScopeId) :
    Session.send env request read scope c = (.error f, c) :=
  Prod.ext (Client.fails_of_usable settled.free fails env read scope)
    (Client.send_of_not_open h env request read scope)

theorem close_of_closed {c : Client ω} (h : c.session.phase = .closed) (env : Environment ω) :
    Session.close env c = (.ok (), c) := by
  obtain ⟨result, closing⟩ := Session.ends_close env c
  refine Prod.ext result ?_
  generalize (Session.close env c).2 = c' at closing ⊢
  cases closing with
  | already => rfl
  | done alive => exact absurd h alive

theorem closeConnection_of_closed {c : Client ω} (h : c.session.phase = .closed)
    (env : Environment ω) : Connection.close env c = (.ok (), c) := by
  have ends : Ends (Connection.close env) c fun r c' => r = .ok () ∧ c' = c := by
    refine .session ?_
    rw [if_pos (by simp [isClosed, h])]
    exact .pure ⟨rfl, rfl⟩
  exact Prod.ext ends.1 ends.2

/-- Without a disconnect of the caller's own, no request of a course says farewell. -/
theorem writes_courseConduct {moves : List (Move ω)}
    (lossless : ∀ bs, env.codec.inflate? (env.codec.deflate bs) = some bs)
    (discreet : ∀ m ∈ moves, ∀ request, m.call.request? = some request →
      encode env.codec false request ≠ encode env.codec false Command.disconnect) :
    (courseConduct moves).Writes env fun frame => frame.isFarewell env.codec = false := by
  intro request hr compressing payload hp
  have differs : encode env.codec false request ≠ encode env.codec false Command.disconnect := by
    obtain (login | own | ⟨m, hm, hr⟩) | rfl := hr
    · exact login.ne_disconnect
    · exact own.ne_disconnect
    · exact discreet m hm request hr
    · exact Command.abortQuery_ne_disconnect
  cases h : Frame.isFarewell env.codec ⟨payload, compressing⟩ with
  | false => rfl
  | true => exact absurd (encode_eq_of_isFarewell lossless hp h) differs

/-- A retired session stays silent. -/
theorem course_retires (env : Environment ω) (config : Config) (url : Option String) (wire : ω)
    (scopes : Scopes) (scope : Option ScopeId) (moves : List (Move ω))
    (operate : ∀ m ∈ moves, m.call.isOperation = true) :
    Retirement env (onChannel config url wire scopes) moves
      (course env (onChannel config url wire scopes) scope moves) := by
  have settled : (course env (onChannel config url wire scopes) scope moves).client.Settled env
      fun _ => True := settled_course operate (writes_any _)
  let d := course env (onChannel config url wire scopes) scope moves
  have silent (h : d.client.session.phase ≠ .open) (more : List (Move ω))
      (hmore : ∀ m ∈ more, m.call.isOperation = true) :
      Silent (∃ m ∈ more, m.call.closes = true) d.client (d.after env more).client :=
    Dialogue.silent_after hmore h settled
  have untouched (h : d.client.session.phase ≠ .open) (m : Move ω) (hm : m.call.isOperation = true) :
      (d.make env m).2.client.wire = (m.meet d.client).wire ∨
      m.call.closes = true ∧ d.client.session.phase = .broken ∧
        (d.make env m).2.client.wire = (env.wire.close (m.meet d.client).wire).rest := by
    cases Dialogue.hushed_make hm h settled with
    | still _ wire => exact .inl wire
    | closed closes broken _ _ wire => exact .inr ⟨closes, broken, wire⟩
  have closes (h : ∃ m ∈ moves, m.call.closes = true) :
      d.client.session.phase = .closed ∧ d.client.closings = 1 := by
    have loggedIn : (Session.login env scope (onChannel config url wire scopes)).2.Settled env
        fun _ => True := settled_onChannel (writes_any ⟨fun _ => True, True⟩) fun _ _ => trivial
    have phase : d.client.session.phase = .closed := Dialogue.phase_after operate rfl loggedIn h
    exact ⟨phase, by rw [settled.closings, if_pos phase]⟩
  refine ⟨silent, untouched, ?_, ?_, ?_, closes, ?_, ?_⟩
  -- requests on a broken session, and on a closed one
  · intro h α request read scope
    exact send_of_usable (by simp [h]) settled (by simp [usable, h]) read scope
  · intro h α request read scope
    exact send_of_usable (by simp [h]) settled (by simp [usable, h]) read scope
  · rw [settled.closings]
    split <;> simp
  · exact fun h => ⟨close_of_closed h env, closeConnection_of_closed h env⟩
  -- farewell: no request of the course is a disconnect, so only the end of the session says it
  · intro lossless discreet
    have writes := writes_courseConduct lossless discreet
    refine ⟨?_, (settled_course operate writes).frames⟩
    refine (Client.discreet_login writes (fun _ h => .inl h) scope _).trans ?_
    have between (m : Move ω) (c : Client ω) : Relation.ReflTransGen (Discreet env) c (m.meet c) :=
      .single (Client.discreet_of_goes (m.steady_meet c) (by simp))
    exact Dialogue.after_relates (fun m _ => between m) (fun _ _ path => Client.discreet_path writes path)
      (keeps_courseConduct operate) { client := (Session.login env scope _).2 }

/-- A connection that is closed after a statement: the channel is closed once, and the farewell is
the last of four frames. -/
theorem canned_retires :
    let replies := cannedLogin [
      cannedReply ["\x7b\"numResults\": 1, ", "\"results\": [\x7b\"rowCount\": 2\x7d]\x7d"]]
    let moves : List (Move (List Bytes)) :=
      [{ call := .execute "DELETE FROM t" .null }, { call := .close }, { call := .query "SELECT" .null }]
    let run := course cannedEnvironment (onChannel cannedConfig none replies []) none moves
    run.client.session.phase = .closed ∧ run.client.closings = 1 ∧ run.client.frames.length = 4 ∧
      Farewells cannedEnvironment (onChannel cannedConfig none replies []) run.client := by
  intro replies moves
  have operate : ∀ m ∈ moves, m.call.isOperation = true := by simp [moves, Call.isOperation]
  have closing : ∃ m ∈ moves, m.call.closes = true := ⟨{ call := .close }, by simp [moves], rfl⟩
  have discreet : ∀ m ∈ moves, ∀ request, m.call.request? = some request →
      encode cannedEnvironment.codec false request ≠
        encode cannedEnvironment.codec false Command.disconnect := by
    simp [moves, Call.request?]
  have h := course_retires cannedEnvironment cannedConfig none replies [] none moves operate
  generalize e : course cannedEnvironment (onChannel cannedConfig none replies []) none moves = run at h ⊢
  have written : run.client.frames.length = 4 := by
    rw [← e]
    decide +kernel
  obtain ⟨closed, once⟩ := h.closes closing
  have farewells := h.farewell (fun _ => rfl) discreet
  exact ⟨closed, once, written, farewells⟩

/-- A caller that hands over disconnects as requests of its own has them written, time and again,
on a session that stays open and whose channel is not closed: behind the two frames of the
login, two more say farewell. -/
theorem caller_says_farewell :
    let replies := cannedLogin [cannedReply ["null"], cannedReply ["null"]]
    let moves : List (Move (List Bytes)) :=
      [{ call := .send Command.disconnect none }, { call := .send Command.disconnect none }]
    let run := course cannedEnvironment (onChannel cannedConfig none replies []) none moves
    (run.client.frames.drop 2).map (·.isFarewell cannedEnvironment.codec) = [true, true] ∧
      run.client.session.phase = .open ∧ run.client.closings = 0 := by
  decide +kernel

end ExaWire.Script
