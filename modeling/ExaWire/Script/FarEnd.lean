/-
ExaWire/Script/FarEnd.lean

A far end that follows a script: the replies that it will give, in order, and
what goes wrong on the way.  It makes every exchange of a client a function of
the script, and it is an instance of a wire like any other.

While it is polled, time passes: timers run down and cancel the scopes they were
set for, and a reply that is late comes nearer.  A far end that has nothing left
to give is polled in vain as long as timers run, and for long after that; in the
end it lets the client read and learn that there is nothing.
-/
import ExaWire.Bytes.Zlib
import ExaWire.Json.Reader
import ExaWire.Network.Wire

namespace ExaWire.Script

open Network

/-- What a client gets to read. -/
inductive Offer
  | message (bs : Bytes)
  | failure (text : String)
  /-- the far end closes -/
  | closing
  /-- waiting fails, and nothing is left to read -/
  | unpollable (text : String)

/-- A scripted reply. -/
structure Reply where
  offer : Offer
  /-- how many polls find nothing before it -/
  delay : Nat := 0
  /-- whether a further request is tried while it is read -/
  intrudes : Bool := false

/-- A cancellation at the poll of that number, counted from one. -/
structure Timer where
  polls : Nat
  cancellation : Cancellation

/-- How often a far end with nothing to give is polled in vain. -/
def usualStalls : Nat := 1000

/-- A far end. -/
structure FarEnd where
  replies : List Reply := []
  /-- the commands that cannot be sent -/
  refused : List String := []
  timers : List Timer := []
  /-- how many polls find nothing once there are no replies and no timers -/
  stalls : Nat := usualStalls
  closeFailure : Option String := none
  isAttached : Bool := true
  buffered : Nat := 0

/-- The timers one poll later: the cancellations that are due, and the timers that still
run. -/
def tick : List Timer → List Cancellation × List Timer
  | [] => ([], [])
  | t :: ts =>
    let (due, running) := tick ts
    if t.polls ≤ 1 then (t.cancellation :: due, running)
    else (due, { t with polls := t.polls - 1 } :: running)

/-- A sum over a list. -/
def total {α : Type} (f : α → Nat) : List α → Nat
  | [] => 0
  | x :: xs => f x + total f xs

/-- How long timers can run. -/
def runtime (timers : List Timer) : Nat := total (·.polls + 1) timers

/-- Every poll uses up some of the time of the timers. -/
theorem runtime_tick_le (ts : List Timer) : runtime (tick ts).2 + ts.length ≤ runtime ts := by
  induction ts with
  | nil => simp [tick, runtime, total]
  | cons t ts ih =>
    simp only [tick, runtime, total, List.length_cons] at ih ⊢
    split
    · dsimp only
      omega
    · simp only [total]
      omega

namespace FarEnd

/-- The command of a frame, if it has a name. -/
def commandOf (codec : Codec) (frame : Frame) : Option String := do
  let payload ← if frame.binary then codec.inflate? frame.payload else some frame.payload
  match Json.read payload with
  | .ok (.object entries) =>
    match Value.lookup? "command" entries with
    | some (.text name) => some name
    | _ => none
  | _ => none

/-- Takes a frame, unless its command is refused. -/
def send (codec : Codec) (frame : Frame) (e : FarEnd) : Turn FarEnd Unit :=
  match commandOf codec frame with
  | some name =>
    if e.refused.contains name then
      { result := .error ("send of " ++ name ++ " failed"), rest := e }
    else { result := .ok (), rest := e }
  | none => { result := .ok (), rest := e }

/-- Whether there is something to read, for a far end whose timers have just been
served. -/
def look (running : Bool) (e : FarEnd) : Except String Bool × FarEnd :=
  match e.replies with
  | [] =>
    if running then (.ok false, e)
    else match e.stalls with
      | n + 1 => (.ok false, { e with stalls := n })
      | 0 => (.ok true, e)
  | r :: rest =>
    match r.delay with
    | n + 1 => (.ok false, { e with replies := { r with delay := n } :: rest })
    | 0 =>
      match r.offer with
      | .unpollable text => (.error text, { e with replies := rest })
      | _ => (.ok true, e)

/-- Answers a poll. -/
def poll (e : FarEnd) : Turn FarEnd Bool :=
  let (due, timers) := tick e.timers
  let (result, rest) := look (!e.timers.isEmpty) { e with timers }
  { result, cancellations := due, rest }

/-- Gives the next reply. -/
def receive (e : FarEnd) : Turn FarEnd (Option Bytes) :=
  match e.replies with
  | [] => { result := .error "no reply scripted", rest := e }
  | r :: rest =>
    { result := match r.offer with
        | .message bs => .ok (some bs)
        | .failure text => .error text
        | .closing => .ok none
        | .unpollable _ => .ok (some [])
      intruders := if r.intrudes then 1 else 0
      rest := { e with replies := rest } }

/-- Is closed. -/
def close (e : FarEnd) : Turn FarEnd Unit :=
  { result := Socket.failing e.closeFailure, rest := e }

/-- How many polls can find nothing. -/
def patience (e : FarEnd) : Nat := e.stalls + total (·.delay) e.replies + runtime e.timers

/-- A look that finds nothing uses up patience, unless timers run. -/
theorem patience_look {running : Bool} {e : FarEnd} (h : (look running e).1 = .ok false) :
    patience (look running e).2 < patience e ∨ running = true ∧ patience (look running e).2 ≤ patience e := by
  unfold look at h ⊢
  cases hr : e.replies with
  | nil =>
    cases running <;> cases hs : e.stalls <;> simp_all [patience]
  | cons r rest =>
    cases hd : r.delay with
    | zero => cases ho : r.offer <;> simp [hr, hd, ho] at h
    | succ n => simp [patience, total, hr, hd]

/-- A poll that finds nothing uses up patience. -/
theorem patience_poll_lt (e : FarEnd) (h : (poll e).result = .ok false) :
    patience (poll e).rest < patience e := by
  have served := runtime_tick_le e.timers
  have found : (look (!e.timers.isEmpty) { e with timers := (tick e.timers).2 }).1 = .ok false := h
  have less := patience_look found
  change patience (look (!e.timers.isEmpty) { e with timers := (tick e.timers).2 }).2 < patience e
  have before : patience { e with timers := (tick e.timers).2 } + e.timers.length ≤ patience e := by
    simp only [patience]
    omega
  rcases less with less | ⟨running, less⟩
  · omega
  · cases ht : e.timers with
    | nil => simp [ht] at running
    | cons t ts =>
      simp only [ht, List.length_cons] at before less ⊢
      omega

end FarEnd

/-- The wire to a scripted far end, whose compressed frames are read with a codec. -/
def wire (codec : Codec) : Wire FarEnd where
  send := FarEnd.send codec
  poll := FarEnd.poll
  receive := FarEnd.receive
  close := FarEnd.close
  isAttached := FarEnd.isAttached
  buffered := FarEnd.buffered
  patience := FarEnd.patience
  patience_lt := FarEnd.patience_poll_lt

end ExaWire.Script
