/-
ExaWire/Proofs/Script/Undone.lean

A login on a fresh channel is undone if it fails, unless a number was too great.

The session is opened before anything is sent.  If the login succeeds, it stays open; if
it fails in a failure that is reported, the session is closed and its channel was closed
once, and no later call reaches that channel.  A number too great to be used is
told by a fault that the login does not take for a failure: it leaves the session
open, and the session takes requests although nobody is logged in on it.
-/
import ExaWire.Proofs.Script.Retired
import ExaWire.Proofs.Session.Beginning

namespace ExaWire.Script

open Network Session

variable {ω : Type} {env : Environment ω}

/-- The reply that a client read last, on a session that does not compress. -/
def HasLastReply (codec : Codec) (c : Client ω) (reply : List (Value × Value)) : Prop :=
  ∃ bs, c.replies.getLast? = some bs ∧ decode codec false bs = .ok reply

/-- The session of a client is gone: it has no channel, which was closed once, and whatever calls
are made, it refuses every request, and nothing happens on the channel. -/
structure Gone (env : Environment ω) (c : Client ω) : Prop where
  phase : c.session.phase = .closed
  detached : c.session.attached = false
  closings : c.closings = 1
  later : ∀ moves : List (Move ω), (∀ m ∈ moves, m.call.isOperation = true) → ∀ c',
    c' = (Dialogue.after env { client := c } moves).client →
      c'.session.phase = .closed ∧ c'.trace = c.trace ∧
        ∀ {α : Type} (request : Value) (read : Value → Attempt α) (scope : Option ScopeId),
          Session.send env request read scope c' = (.error closedFailure, c')

theorem gone_of_detached {c₁ c : Client ω} (h : Detached env c₁ c)
    (settled : c.Settled env fun _ => True) : Gone env c := by
  have phase := h.phase
  refine ⟨phase, by rw [h.session]; rfl, by rw [settled.closings, if_pos phase], ?_⟩
  rintro moves operate _ rfl
  let d := Dialogue.after env { client := c } moves
  have settled' : d.client.Settled env fun _ => True :=
    Dialogue.settled_after (fun m hm => Call.keeps_any (operate m hm)) (writes_any _) settled
  obtain ⟨phase', trace⟩ : d.client.session.phase = .closed ∧ d.client.trace = c.trace := by
    cases Dialogue.silent_after operate (d := { client := c }) (by simp [phase]) settled with
    | still phase' trace => exact ⟨phase'.trans phase, trace⟩
    | closed _ broken => cases broken.symm.trans phase
  refine ⟨phase', trace, fun request read scope => ?_⟩
  exact send_of_usable (by simp [phase']) settled' (by simp [usable, phase']) read scope

/-- How a login ends on a channel that was not used before. -/
inductive LoginEnds (env : Environment ω) (config : Config) : Attempt LoginReply → Client ω → Prop
  | opened {info reply c} (session : c.session = {
        config, phase := .open, attached := true, compressing := config.compression, info := some info })
      (last : HasLastReply env.codec c reply) (read : answer LoginReply.ofValue reply = .ok info)
      (closings : c.closings = 0) : LoginEnds env config (.ok info) c
  | undone {f c} (tells : tellsItself f = true) (gone : Gone env c) : LoginEnds env config (.error f) c
  /-- a number too great escapes, and the session is left open -/
  | escaped {reply c} (session : c.session = { config, phase := .open, attached := true })
      (last : HasLastReply env.codec c reply) (h : IsTooGreat reply) (closings : c.closings = 0) :
    LoginEnds env config (.error (.fault .tooGreat)) c

theorem hasLastReply_of_hasRead {codec : Codec} {c c' : Client ω} {reply : List (Value × Value)}
    (plain : c.session.compressing = false) (h : c.HasRead codec c' reply) :
    HasLastReply codec c' reply := by
  obtain ⟨news, bs, goes, decoded⟩ := h
  rw [plain] at decoded
  refine ⟨bs, ?_, decoded⟩
  rw [goes.replies, Happening.replies_append, ← List.append_assoc]
  exact List.getLast?_concat

/-- A login on a fresh channel opens the session or is undone, whatever the channel and the scope
do, unless a reply has a number that is too great. -/
theorem login_opens_or_is_undone (env : Environment ω) (config : Config) (url : Option String)
    (wire : ω) (scopes : Scopes) (scope : Option ScopeId) :
    Ends (Session.login env scope) (onChannel config url wire scopes) (LoginEnds env config) := by
  let c := onChannel config url wire scopes
  have settled : (Session.login env scope c).2.Settled env fun _ => True :=
    settled_onChannel (writes_any ⟨fun _ => True, True⟩) fun _ _ => trivial
  have begun : Begun env c _ _ := ends_login_begun scope c
  unfold Ends
  generalize (Session.login env scope c).1 = r, (Session.login env scope c).2 = c' at begun settled ⊢
  have closings (opens : c'.session.phase = .open) : c'.closings = 0 := by
    rw [settled.closings, if_neg (by simp [opens])]
  cases begun with
  | opened last read goes =>
    obtain ⟨_, _, begins, -⟩ := id last
    have session := goes.session
    rw [begins.session] at session
    obtain ⟨bs, lastly, decoded⟩ := hasLastReply_of_hasRead rfl last
    -- the note about the login stands behind the reply, but is no part of the trace
    have replies : c'.replies = _ := goes.replies
    rw [Happening.replies_nil, List.append_nil] at replies
    exact .opened session ⟨bs, by rwa [replies], decoded⟩ read (closings (by rw [session]; rfl))
  | undone tells detached => exact .undone tells (gone_of_detached detached settled)
  | escaped last h =>
    obtain ⟨_, _, begins, -⟩ := id last
    have session := begins.session
    exact .escaped session (hasLastReply_of_hasRead rfl last) h (closings (by rw [session]; rfl))

/-- A login whose reply tells an infinite session id fails, but is not undone: the session stays
open, its channel is not closed, and a request on it is written and answered. -/
theorem login_escapes_undoing :
    let replies := [cannedReply ["\x7b\x7d"], cannedReply ["\x7b\"sessionId\": 1e999\x7d"],
      cannedReply ["null"]]
    let begun := Session.login cannedEnvironment none (onChannel cannedConfig none replies [])
    let later := Session.send cannedEnvironment (Command.closeResultSet []) noData none begun.2
    begun.1.toBool = false ∧ begun.2.session.phase = .open ∧ begun.2.closings = 0 ∧
      begun.2.frames.length = 2 ∧ later.1.toBool = true ∧ later.2.frames.length = 3 := by
  decide +kernel

end ExaWire.Script
