/-
ExaWire/Proofs/Script/InStep.lean

Requests and replies stay in step.

A client is in step if, as long as its session is open, it has read a reply for every
frame that it has written.  An exchange that is answered adds one of each; any other
exchange either does nothing or leaves the session broken, and then nothing is
asked of it any more.  So every step keeps the client in step, and in an open session
the next reply to arrive can only be the reply to the next request.
-/
import ExaWire.Proofs.Script.Course

namespace ExaWire

open Network Session

variable {ω α : Type} {env : Environment ω}

/-- In an open session as many replies were read as frames were written. -/
def Client.InStep (c : Client ω) : Prop :=
  c.session.phase = .open → c.frames.length = c.replies.length

/-- Whatever a request gives, be it a value or a failure that repeats what a reply says, is read
from the reply to its own frame: frames and replies were even before, and the two things
that happened on the channel since are that this frame was written and then that this reply
was read. -/
def Session.OwnAnswer (env : Environment ω) (request : Value) (read : Value → Attempt α)
    (scope : Option ScopeId) (c : Client ω) : Prop :=
  ∀ r c', send env request read scope c = (r, c') → (∀ f, r = .error f → f.isAnswer = true) →
    c.frames.length = c.replies.length ∧
    ∃ payload bs entries,
      encode env.codec c.session.compressing request = .ok payload ∧
      c'.trace = c.trace ++ [.sent ⟨payload, c.session.compressing⟩, .received bs] ∧
      decode env.codec c.session.compressing bs = .ok entries ∧
      r = answer read entries

/-- A stretch of a run, told by what it does on the channel. -/
inductive Client.Stretch (env : Environment ω) (c : Client ω) : Client ω → Prop
  | silent {c'} (frames : c'.frames = c.frames) (replies : c'.replies = c.replies) : Stretch env c c'
  | send {α : Type} (request : Value) (read : Value → Attempt α) (scope : Option ScopeId)
      (own : OwnAnswer env request read scope c) : Stretch env c (Session.send env request read scope c).2
  | close : Stretch env c (Session.close env c).2

namespace Client

variable {c c' : Client ω}

theorem InStep.steady (h : c.InStep) (hs : c.Steady c') : c'.InStep := by
  intro opens
  rw [hs.session] at opens
  rw [hs.frames, hs.replies]
  simpa using h opens

theorem silent_of_goes {s : Session} (h : c.Goes c' s []) : Stretch env c c' :=
  .silent (by rw [h.frames]; exact List.append_nil _) (by rw [h.replies]; exact List.append_nil _)

theorem InStep.ownAnswer (h : c.InStep) (request : Value) (read : Value → Attempt α)
    (scope : Option ScopeId) : OwnAnswer env request read scope c := by
  intro r c' e given
  have ends := ends_send env request read scope c
  unfold Ends at ends
  rw [e] at ends
  cases ends with
  | refused hf => simp [given _ rfl] at hf
  | failed hf => simp [given _ rfl] at hf
  | answered a => exact ⟨h a.carries.isOpen, _, _, _, a.encoded, a.goes.trace, a.decoded, rfl⟩

/-- An exchange keeps a client in step, however it ends. -/
theorem InStep.send (h : c.InStep) {request : Value} {read : Value → Attempt α}
    {r : Attempt α} (hs : Sending env request read c r c') : c'.InStep := by
  intro opens
  cases hs with
  | refused hf => exact h opens
  | failed hf carries hp hn goes =>
    -- frames and replies may differ now, but the session is broken
    rw [goes.session] at opens
    cases opens
  | answered a =>
    have even := h a.carries.isOpen
    rw [a.goes.frames, a.goes.replies, List.length_append, List.length_append, even]
    rfl

/-- A step keeps a client in step. -/
theorem InStep.step {P : Conduct} (h : c.InStep) (hs : Step env P c c') :
    c'.InStep ∧ Stretch env c c' := by
  cases hs with
  | aside hs wire => exact ⟨h.steady hs, silent_of_goes hs⟩
  | send hr read scope =>
    exact ⟨h.send (ends_send env _ read scope c), .send _ read scope (h.ownAnswer _ _ _)⟩
  | close =>
    refine ⟨fun opens => ?_, .close⟩
    cases (ends_close env c).2.phase.symm.trans opens

/-- One client came from another, in step if that one was. -/
def StaysInStep (env : Environment ω) (c c' : Client ω) : Prop :=
  c.InStep → c'.InStep ∧ Relation.ReflTransGen (Stretch env) c c'

instance : IsPreorder (Client ω) (StaysInStep env) where
  refl _ h := ⟨h, .refl⟩
  trans _ _ _ h h' hi := by
    obtain ⟨hj, along⟩ := h hi
    obtain ⟨hk, further⟩ := h' hj
    exact ⟨hk, along.trans further⟩

theorem staysInStep_steady (h : c.Steady c') : StaysInStep env c c' := fun hi =>
  ⟨hi.steady h, .single (silent_of_goes h)⟩

theorem staysInStep_path {P : Conduct} (h : Path env P c c') : StaysInStep env c c' := by
  induction h with
  | refl => exact refl_of (StaysInStep env) c
  | tail _ step ih => exact trans_of (StaysInStep env) ih fun hi => (hi.step step).imp_right .single

theorem staysInStep_detached (h : Detached env c c') : StaysInStep env c c' := by
  intro _
  refine ⟨fun opens => ?_, .single ?_⟩
  · cases h.phase.symm.trans opens
  · cases h with
    | idle _ goes _ => exact silent_of_goes goes
    | shut _ _ _ trace _ =>
      refine .silent ?_ ?_
      · rw [Client.frames, trace, Happening.frames_append]
        exact List.append_nil _
      · rw [Client.replies, trace, Happening.replies_append]
        exact List.append_nil _

/-- Nothing was written or read before a login, and the login keeps the client in step. -/
theorem staysInStep_login (env : Environment ω) (scope : Option ScopeId) (h : c.trace = []) :
    (Session.login env scope c).2.InStep ∧
      Relation.ReflTransGen (Stretch env) c (Session.login env scope c).2 := by
  let c₀ := { c with session := c.session.opened }
  have opening : Stretch env c c₀ := .silent rfl rfl
  -- nothing was written or read yet, so the session is opened in step
  have inStep : c₀.InStep := fun _ => by
    show (Happening.frames c.trace).length = (Happening.replies c.trace).length
    simp [h]
  have login : Ends (Session.login env scope) c (LoggedIn env ⟨fun _ => True, True⟩ c) :=
    ends_login (fun _ _ => trivial) scope c
  unfold Ends at login
  generalize (Session.login env scope c).1 = r, (Session.login env scope c).2 = c' at login ⊢
  cases login with
  | done path goes _ =>
    obtain ⟨hi, along⟩ := staysInStep_path path inStep
    refine ⟨fun opens => ?_, .head opening (along.tail (silent_of_goes goes))⟩
    rw [goes.session] at opens
    rw [goes.frames, goes.replies]
    simpa using hi opens
  | escaped path =>
    obtain ⟨hi, along⟩ := staysInStep_path path inStep
    exact ⟨hi, .head opening along⟩
  | refused path detached =>
    obtain ⟨hi, along⟩ := staysInStep_path path inStep
    obtain ⟨hj, further⟩ := staysInStep_detached detached hi
    exact ⟨hj, .head opening (along.trans further)⟩

end Client

namespace Script

/-- Requests and replies are in step at the end of a run. -/
structure Synchronised (env : Environment ω) (start c : Client ω) : Prop where
  /-- an open session has read a reply for every frame -/
  even : c.session.phase = .open → c.frames.length = c.replies.length
  /-- every request on the way was given its own answer -/
  stretches : Relation.ReflTransGen (Client.Stretch env) start c
  /-- and so is the next one, whatever it is -/
  own : ∀ {α : Type} (request : Value) (read : Value → Attempt α) (scope : Option ScopeId),
    OwnAnswer env request read scope c

/-- Whatever the channel does and whatever calls are made after the login, requests and replies
stay in step. -/
theorem course_synchronised (env : Environment ω) (config : Config) (url : Option String) (wire : ω)
    (scopes : Scopes) (scope : Option ScopeId) (moves : List (Move ω))
    (operate : ∀ m ∈ moves, m.call.isOperation = true) :
    Synchronised env (onChannel config url wire scopes)
      (course env (onChannel config url wire scopes) scope moves).client := by
  let start := onChannel config url wire scopes
  obtain ⟨inStep, along⟩ := Client.staysInStep_login env scope (c := start) rfl
  have between (m : Move ω) (c : Client ω) : Client.StaysInStep env c (m.meet c) :=
    Client.staysInStep_steady (m.steady_meet c)
  have further := Dialogue.after_relates (fun m _ => between m) (fun _ _ => Client.staysInStep_path)
    (fun m hm => Call.keeps_any (operate m hm)) { client := (Session.login env scope start).2 }
  obtain ⟨hc, hs⟩ := further inStep
  exact ⟨hc, along.trans hs, hc.ownAnswer⟩

/-- A statement that is answered and one that the server rejects leave the session open, with
four frames and four replies. -/
theorem canned_synchronised :
    let replies := cannedLogin [
      cannedReply ["\x7b\"numResults\": 1, ", "\"results\": [\x7b\"rowCount\": 2\x7d]\x7d"],
      Utf8.encode "\x7b\"status\": \"error\", \"exception\": \x7b\"sqlCode\": \"42000\"\x7d\x7d"]
    let moves : List (Move (List Bytes)) :=
      [{ call := .execute "DELETE FROM t" .null }, { call := .query "SELECT" .null }]
    let run := course cannedEnvironment (onChannel cannedConfig none replies []) none moves
    run.client.frames.length = 4 ∧ run.client.replies.length = 4 := by
  intro replies moves
  have operate : ∀ m ∈ moves, m.call.isOperation = true := by simp [moves, Call.isOperation]
  have h := course_synchronised cannedEnvironment cannedConfig none replies [] none moves operate
  generalize e : course cannedEnvironment (onChannel cannedConfig none replies []) none moves = run at h ⊢
  have facts : run.client.session.phase = .open ∧ run.client.frames.length = 4 := by
    rw [← e]
    decide +kernel
  exact ⟨facts.2, (h.even facts.1).symm.trans facts.2⟩

end Script

end ExaWire
