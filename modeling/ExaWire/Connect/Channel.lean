/-
ExaWire/Connect/Channel.lean

The channel of a session: whole messages out and in.  A framed channel says in
its texts which operation failed; once closed it stays closed.
-/
import ExaWire.Client.Basic

namespace ExaWire.Channel

open Network

variable {ω : Type}

/-- The failure of an operation of a channel. -/
def failure (text : String) : Failure := .of .transport text

/-- The text of a failed operation: as it is, or behind what was tried. -/
def phrase (link : Link) (tried text : String) : String :=
  match link with
  | .bare => text
  | .framed _ _ => tried ++ text

/-- Sends a message. -/
def send (env : Environment ω) (frame : Frame) : Action ω Unit := fun c =>
  let turn := env.wire.send frame c.wire
  let c := c.after turn
  match turn.result with
  | .ok () => (.ok (), c.record [.sent frame])
  | .error text => (.error (failure (phrase c.link "could not send request: " text)), c)

/-- Asks the wire whether a message can be read. -/
def ask (env : Environment ω) (c : Client ω) : Attempt Bool × Client ω :=
  let turn := env.wire.poll c.wire
  match turn.result with
  | .ok ready => (.ok ready, c.after turn)
  | .error text => (.error (failure (phrase c.link "could not poll websocket: " text)), c.after turn)

/-- Whether a message can be read without waiting.  A framed channel that has bytes
decrypted already does not ask the wire. -/
def poll (env : Environment ω) (c : Client ω) : Attempt Bool × Client ω :=
  match c.link with
  | .bare => ask env c
  | .framed _ _ =>
    if env.wire.isAttached c.wire then
      if 0 < env.wire.buffered c.wire then (.ok true, c) else ask env c
    else (.error (failure "websocket is not connected"), c)

/-- A question that finds nothing uses up patience. -/
theorem patience_ask {env : Environment ω} {c : Client ω} (h : (ask env c).1 = .ok false) :
    env.wire.patience (ask env c).2.wire < env.wire.patience c.wire := by
  unfold ask at h ⊢
  cases e : (env.wire.poll c.wire).result with
  | error text => simp [e] at h
  | ok ready =>
    simp only [e, Except.ok.injEq] at h ⊢
    exact env.wire.patience_lt _ (h ▸ e)

/-- A poll that finds nothing uses up patience. -/
theorem patience_poll {env : Environment ω} {c : Client ω} (h : (poll env c).1 = .ok false) :
    env.wire.patience (poll env c).2.wire < env.wire.patience c.wire := by
  unfold poll at h ⊢
  split
  · next e => rw [e] at h; exact patience_ask h
  · next e =>
    rw [e] at h
    by_cases ha : env.wire.isAttached c.wire <;> by_cases hb : 0 < env.wire.buffered c.wire <;>
      simp only [ha, hb, if_true, if_false, Bool.false_eq_true, Except.ok.injEq, reduceCtorEq] at h ⊢
    exact patience_ask h

/-- Reads the next message. -/
def receive (env : Environment ω) : Action ω Bytes := fun c =>
  let turn := env.wire.receive c.wire
  let c := c.after turn
  match turn.result with
  | .ok (some bs) => (.ok bs, c.record [.received bs])
  | .ok none => (.error (failure "connection closed by server"), c)
  | .error text => (.error (failure (phrase c.link "could not receive data: " text)), c)

/-- Closes the channel; a framed one only once, and whatever goes wrong then is no more
than a note. -/
def close (env : Environment ω) : Action ω Unit := fun c =>
  match c.link with
  | .bare => (.ok (), (c.after (env.wire.close c.wire)).record [.detached])
  | .framed _ true => (.ok (), c)
  | .framed url false =>
    let turn := env.wire.close c.wire
    let c := ({ c with link := .framed url true }.after turn).record [.detached]
    match turn.result with
    | .ok () => (.ok (), c)
    | .error text =>
      (.ok (), c.annotate [⟨.debug, "Ignoring error while closing " ++ url ++ ": " ++ text⟩])

end ExaWire.Channel
