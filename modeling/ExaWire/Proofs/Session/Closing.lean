/-
ExaWire/Proofs/Session/Closing.lean

The two ends of a session's life.

A session that is not closed ends in two stages.  An open one that has its channel
says farewell, which may fail and then leaves it broken; after that the session is
*retired*, and a channel that was not closed yet is closed.  A closed session stays
as it is.

A login opens the session and then takes a path of its own; only its last step
tells whether the session stays open.
-/
import ExaWire.Proofs.Session.Path

namespace ExaWire

open Network

variable {ω α : Type}

/-- Whether the closing of a channel would reach its wire. -/
def Link.isUp : Link → Bool
  | .framed _ true => false
  | _ => true

/-! ### Channels -/

namespace Channel

/-- How the closing of a channel ends: it reaches the wire once. -/
inductive Closed (env : Environment ω) (c : Client ω) : Client ω → Prop
  | again (down : c.link.isUp = false) : Closed env c c
  | done {c'} (up : c.link.isUp = true) (session : c'.session = c.session)
      (trace : c'.trace = c.trace ++ [.detached])
      (wire : c'.wire = (env.wire.close c.wire).rest) : Closed env c c'

theorem trace_detached (c : Client ω) (turn : Turn ω α) :
    ((c.after turn).record [.detached]).trace = c.trace ++ [.detached] := by
  have h : (c.after turn).Goes ((c.after turn).record [.detached]) _ [.detached] :=
    Client.goes_record _ (by simp [Happening.ofChannel])
  exact ((c.steady_after turn).afterSteady h).trace

theorem ends_close (env : Environment ω) (c : Client ω) :
    Ends (close env) c fun r c' => r = .ok () ∧ Closed env c c' := by
  unfold Ends close
  rcases hl : c.link with _ | ⟨url, _ | _⟩
  · have up : c.link.isUp = true := by rw [hl]; rfl
    exact ⟨rfl, .done up rfl (trace_detached c _) rfl⟩
  · have up : c.link.isUp = true := by rw [hl]; rfl
    rcases e : (env.wire.close c.wire).result with text | ⟨⟩
    · simp only [e]
      exact ⟨trivial, .done up rfl (trace_detached { c with link := .framed url true } _) rfl⟩
    · simp only [e]
      exact ⟨trivial, .done up rfl (trace_detached { c with link := .framed url true } _) rfl⟩
  · exact ⟨rfl, .again (by rw [hl]; rfl)⟩

end Channel

/-! ### The end -/

namespace Session

open ExaWire.Action

/-- A session that was closed. -/
def retired (s : Session) : Session := { s with phase := .closed, attached := false }

/-- How a client gives up its channel: the session is retired, and a channel that is up is
closed. -/
inductive Detached (env : Environment ω) (c : Client ω) : Client ω → Prop
  | idle {c'} (h : c.session.attached = true → c.link.isUp = false)
      (goes : c.Goes c' c.session.retired []) (wire : c'.wire = c.wire) : Detached env c c'
  | shut {c'} (attached : c.session.attached = true) (up : c.link.isUp = true)
      (session : c'.session = c.session.retired) (trace : c'.trace = c.trace ++ [.detached])
      (wire : c'.wire = (env.wire.close c.wire).rest) : Detached env c c'

theorem Detached.session {env : Environment ω} {c c' : Client ω} (h : Detached env c c') :
    c'.session = c.session.retired := by
  cases h with
  | idle _ goes _ => exact goes.session
  | shut _ _ session _ _ => exact session

theorem Detached.phase {env : Environment ω} {c c' : Client ω} (h : Detached env c c') :
    c'.session.phase = .closed := by
  rw [h.session]
  rfl

theorem ends_shutdown (env : Environment ω) (c : Client ω) :
    Ends (shutdown env) c fun r c' => r = .ok () ∧ Detached env c c' := by
  refine .session (.setSession ?_)
  let c₁ := { c with session := c.session.retired }
  have h₁ : c.Goes c₁ c.session.retired [] := ⟨rfl, rfl, (List.append_nil _).symm⟩
  split
  · next ha =>
    refine (Channel.ends_close env c₁).mono ?_
    rintro r c₂ ⟨rfl, down | ⟨up, session, trace, wire⟩⟩
    · exact ⟨rfl, .idle (fun _ => down) h₁ rfl⟩
    · exact ⟨rfl, .shut ha up session trace wire⟩
  · next ha => exact .pure ⟨rfl, .idle (fun h => absurd h ha) h₁ rfl⟩

/-- What comes of the farewell of a session that ends. -/
inductive Farewell (env : Environment ω) (c : Client ω) : Client ω → Prop
  | said {payload c'} (carries : c.session.Carries)
      (hp : encode env.codec c.session.compressing Command.disconnect = .ok payload)
      (h : c.Goes c' c.session [.sent ⟨payload, c.session.compressing⟩]) : Farewell env c c'
  | failed {c'} (carries : c.session.Carries) (h : c.Goes c' c.session.broken []) :
      Farewell env c c'
  /-- a session that is broken, or that has no channel, says nothing -/
  | unsaid (h : ¬ c.session.Carries) : Farewell env c c

/-- How the end of a session ends. -/
inductive Closing (env : Environment ω) (c : Client ω) : Client ω → Prop
  | already (h : c.session.phase = .closed) : Closing env c c
  | done {c₁ c'} (h : c.session.phase ≠ .closed) (farewell : Farewell env c c₁)
      (detached : Detached env c₁ c') : Closing env c c'

theorem Closing.phase {env : Environment ω} {c c' : Client ω} (h : Closing env c c') :
    c'.session.phase = .closed := by
  cases h with
  | already h => exact h
  | done _ _ detached => exact detached.phase

theorem encode_disconnect (codec : Codec) (compressing : Bool) :
    ∃ payload, encode codec compressing Command.disconnect = .ok payload := ⟨_, rfl⟩

theorem ends_close (env : Environment ω) (c : Client ω) :
    Ends (close env) c fun r c' => r = .ok () ∧ Closing env c c' := by
  refine .session ?_
  split
  · next h => exact .pure ⟨rfl, .already (by simpa [isClosed] using h)⟩
  · next h =>
    have notClosed : c.session.phase ≠ .closed := by simpa [isClosed] using h
    have ending {c₁ : Client ω} (farewell : Farewell env c c₁) :
        Ends (shutdown env) c₁ fun r c' => r = .ok () ∧ Closing env c c' :=
      (ends_shutdown env c₁).mono fun _ _ ⟨hr, h⟩ => ⟨hr, .done notClosed farewell h⟩
    split
    · next h =>
      have carries : c.session.Carries := ⟨h.1, h.2⟩
      refine .attempt (ends_write env Command.disconnect c) fun r c₁ written => ?_
      cases written with
      | refused why =>
        -- the farewell can always be written
        obtain ⟨payload, hp⟩ := encode_disconnect env.codec c.session.compressing
        rcases why with hf | hf
        · rw [hp] at hf
          cases hf
        · cases hf
      | failed hp h =>
        refine .bind (R := fun r c₂ => r = .ok () ∧ c₁.Steady c₂) ?_ ?_ ?_
        · exact ⟨rfl, c₁.steady_annotate _⟩
        · rintro _ c₂ ⟨-, h₂⟩
          exact ending (.failed carries (h.steady h₂))
        · rintro f c₂ ⟨⟨⟩, -⟩
      | done hp sent =>
        obtain _ | ⟨-, -, h⟩ := sent
        exact ending (.said carries hp h)
    · next h => exact ending (.unsaid fun hc => h ⟨hc.isOpen, hc.attached⟩)

end Session

/-! ### The beginning -/

/-- The requests of a login. -/
inductive Login.IsRequest : Value → Prop
  | opening (c : Config) : IsRequest (opening c)
  | credentials (station : Workstation) (c : Config) (fields : List (String × Value)) :
    IsRequest (.ofFields (introduction station c ++ fields))

namespace Session

open ExaWire.Action
open Client (Path)

variable {env : Environment ω} {P : Conduct}

/-- A session on which a login begins. -/
def opened (s : Session) : Session := { s with phase := .open, compressing := false }

/-- The second exchange of a login, with the key that the first one gave, if it gave one. -/
def introduce (env : Environment ω) (config : Config) (key : Option KeyReply)
    (scope : Option ScopeId) : Action ω LoginReply := do
  update (Client.annotate (Login.request env.padding env.station config key).1)
  send env (← ofAttempt (Login.request env.padding env.station config key).2)
    LoginReply.ofValue scope

theorem converse_eq (env : Environment ω) (scope : Option ScopeId) : converse env scope = (do
    let config := (← session).config
    if config.usesToken then
      send env (Login.opening config) noData scope
      introduce env config none scope
    else
      let key ← some <$> send env (Login.opening config) KeyReply.ofValue scope
      introduce env config key scope) := rfl

theorem path_introduce (hP : ∀ request, Login.IsRequest request → P.sends request) (config : Config)
    (key : Option KeyReply) (scope : Option ScopeId) :
    Leads (Path env P) (introduce env config key scope) := by
  refine .bind (path_update (fun c => c.steady_annotate _) fun _ => rfl) fun _ => ?_
  have e : (Login.request env.padding env.station config key).2 =
      (Login.credentials env.padding config key).2.map fun fields =>
        .ofFields (Login.introduction env.station config ++ fields) := rfl
  rw [e]
  cases (Login.credentials env.padding config key).2 with
  | error f => exact path_ofAttempt (.error f)
  | ok fields => exact path_send (hP _ (.credentials ..)) _ _

theorem path_converse (hP : ∀ request, Login.IsRequest request → P.sends request)
    (scope : Option ScopeId) : Leads (Path env P) (converse env scope) := by
  rw [converse_eq]
  refine .bind path_session fun s => .ite ?_ ?_
  · exact .bind (path_send (hP _ (.opening _)) _ _) fun _ => path_introduce hP _ none scope
  · exact .bind (.map _ (path_send (hP _ (.opening _)) _ _)) fun key => path_introduce hP _ key scope

/-- How a login ends. -/
inductive LoggedIn (env : Environment ω) (P : Conduct) (c : Client ω) :
    Attempt LoginReply → Client ω → Prop
  | done {c₁ c' info}
      (path : Path env P { c with session := c.session.opened } c₁)
      (h : c₁.Goes c'
        { c₁.session with compressing := c₁.session.config.compression, info := some info } [])
      (wire : c'.wire = c₁.wire) : LoggedIn env P c (.ok info) c'
  /-- a fault that is not reported as a failure of the login leaves the session as it is -/
  | escaped {f c'} (path : Path env P { c with session := c.session.opened } c') :
      LoggedIn env P c (.error f) c'
  | refused {f c₁ c'} (path : Path env P { c with session := c.session.opened } c₁)
      (detached : Detached env c₁ c') : LoggedIn env P c (.error f) c'

theorem ends_login (hP : ∀ request, Login.IsRequest request → P.sends request)
    (scope : Option ScopeId) (c : Client ω) :
    Ends (login env scope) c (LoggedIn env P c) := by
  refine .setSession (.attempt (path_converse hP scope _) ?_)
  rintro (f | info) c₁ path
  · have refused : Ends (do
        shutdown env
        throw (if tellsItself f then f
          else .told .handshake ("failed to login: " ++ f.message) (.failure f)) :
            Action ω LoginReply) c₁ (LoggedIn env P c) := by
      refine (ends_shutdown env c₁).bind ?_ ?_
      · rintro _ c₂ ⟨-, detached⟩
        exact .throw (.refused path detached)
      · rintro _ c₂ ⟨⟨⟩, -⟩
    show Ends (if !f.isReported then _ else _ : Action ω LoginReply) c₁ _
    split
    · exact .throw (.escaped path)
    · exact refused
  · refine .setSession (.note (.pure (.done path ?_ rfl)))
    exact ⟨rfl, rfl, by simp [Client.trace, Client.annotate]⟩

end Session

end ExaWire
