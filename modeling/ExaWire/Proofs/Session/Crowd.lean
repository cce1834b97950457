/-
ExaWire/Proofs/Session/Crowd.lean

Any number of callers on one session.

In a crowd every caller goes its own steps on the one client that all share, in whatever
order, and between any two of them others may do what concerns neither the session nor
its channel: cancel scopes, let an upload go on.  The far end answers every frame once, in
order (`InOrder`); what it answers, and when, is left open.

The invariant, `Sound`, ties together who has taken the lock, whether the session is open,
and what the far end owes.  Whoever waits for a reply is owed the reply to the own frame and
nothing else; and in an open session in which nobody waits nothing is owed.  A step of the
one who has the lock keeps that by what is known of the pieces of an exchange (`Kept`), and
every other step leaves the session, apart from the lock, and the channel as they are.
-/
import ExaWire.Command
import ExaWire.Proofs.Script.Course
import ExaWire.Proofs.Session.Caller
import Mathlib.Logic.Function.Basic

namespace ExaWire

open Network

variable {ω τ ι : Type}

/-- A far end that answers every frame once, in the order in which it takes them.  Of a frame
it keeps a mark until it has answered it. -/
structure Network.InOrder (wire : Wire ω) (τ : Type) where
  /-- what is kept of a frame that is taken in some state -/
  mark : Frame → ω → τ
  /-- the marks of the frames that are not answered yet, oldest first -/
  owing : ω → List τ
  /-- what may be answered to a frame with a mark -/
  Answers : τ → Bytes → Prop
  taken : ∀ {frame w}, (wire.send frame w).result = .ok () →
    owing (wire.send frame w).rest = owing w ++ [mark frame w]
  polled : ∀ w, owing (wire.poll w).rest = owing w
  given : ∀ {w bs}, (wire.receive w).result = .ok (some bs) →
    ∃ t, owing w = t :: owing (wire.receive w).rest ∧ Answers t bs

namespace Session

variable {env : Environment ω}

theorem InOrder.owing_polled (law : InOrder env.wire τ) {w w' : ω}
    (h : Channel.Polled env w w') : law.owing w' = law.owing w := by
  induction h with
  | refl => rfl
  | tail _ step ih => rw [step, law.polled, ih]

/-- The refusal of a request while another one is under way. -/
def busy : Failure := .of .broken "a request is already outstanding on this session"

theorem grant_of_outstanding {s : Session} (h : s.outstanding = true) : s.grant = .error busy := by
  unfold grant
  rw [h]
  rfl

theorem eq_busy_of_grant {s : Session} {f : Failure} (h : s.grant = .error f) : f = busy := by
  unfold grant at h
  split at h
  · injection h with same
    exact same.symm
  · cases h

/-! ### Frames -/

section Frames

variable {c c' : Client ω} {call : Call}

/-- The frames that were written to the channel on the way from one client to another. -/
def wroteBetween (c c' : Client ω) : List Frame := c'.frames.drop c.frames.length

theorem wroteBetween_of_frames {news : List Frame} (h : c'.frames = c.frames ++ news) :
    wroteBetween c c' = news := by
  unfold wroteBetween
  rw [h, List.drop_left]

theorem wroteBetween_self (c : Client ω) : wroteBetween c c = [] :=
  wroteBetween_of_frames (c.frames.append_nil).symm

/-- A failure of the channel is a way in which the wait for a reply ends. -/
theorem replied_orBreak (env : Environment ω) (f : Failure) (c : Client ω) :
    Ends (orBreak (.error f)) c (Replied env c) := by
  refine (ends_throw_breakFor ..).mono ?_
  rintro r c' ⟨⟨text, rfl⟩, h⟩
  exact .failed rfl .lost h

theorem frames_hear {w : ω} {a : Action ω (List (Value × Value))} (h : Ends a c (Replied env c)) :
    ∃ news, (Place.hear w a c).2.frames = c.frames ++ news := by
  unfold Ends at h
  unfold Place.hear
  generalize a c = turn at h ⊢
  obtain ⟨r, c'⟩ := turn
  cases h with
  | failed _ _ goes => exact ⟨_, goes.frames⟩
  | given _ _ _ _ goes => exact ⟨_, goes.frames⟩

theorem frames_write {request : Value} (h : Ends (write env request) c (Written env request c)) :
    ∃ news, (write env request c).2.frames = c.frames ++ news := by
  unfold Ends at h
  generalize write env request c = turn at h ⊢
  obtain ⟨r, c'⟩ := turn
  cases h with
  | refused => exact ⟨[], (List.append_nil _).symm⟩
  | failed _ goes => exact ⟨_, goes.frames⟩
  | done _ sent =>
    obtain _ | ⟨_, _, goes⟩ := sent
    exact ⟨_, goes.frames⟩

theorem steady_idle (c : Client ω) : c.Steady c.idle := c.steady_advance _

/-- A step of a caller only adds to the frames that were written. -/
theorem frames_go (p : Place ω) (c : Client ω) :
    ∃ news, (call.go env p c).2.frames = c.frames ++ news := by
  have steady {c' : Client ω} (h : c.Steady c') : ∃ news, c'.frames = c.frames ++ news :=
    ⟨_, h.frames⟩
  have same : ∃ news, c.frames = c.frames ++ news := ⟨[], (List.append_nil _).symm⟩
  cases p with
  | begun =>
    simp only [Call.go]
    split <;> exact same
  | cleared => exact frames_write (ends_write env call.request c)
  | waiting w scope =>
    simp only [Call.go]
    split <;> exact steady (c.steady_poll scope)
  | listening w scope =>
    have polled : c.Steady (Channel.poll env c).2 := (Channel.polled_poll env c).1
    simp only [Call.go]
    split
    · exact steady polled
    · exact steady (polled.steady (steady_idle _))
    · obtain ⟨news, h⟩ := frames_hear (w := w) (replied_orBreak env _ (Channel.poll env c).2)
      obtain ⟨before, h'⟩ := steady polled
      exact ⟨before ++ news, by rw [h, h', List.append_assoc]⟩
  | aborting w cause => exact frames_hear (ends_abort env cause c)
  | reading w => exact frames_hear (ends_read env c)
  | _ => exact same

theorem frames_wroteBetween (p : Place ω) (c : Client ω) :
    (call.go env p c).2.frames = c.frames ++ wroteBetween c (call.go env p c).2 := by
  obtain ⟨news, h⟩ : ∃ news, (call.go env p c).2.frames = c.frames ++ news := frames_go p c
  rw [wroteBetween_of_frames h, h]

end Frames

/-! ### Crowds -/

/-- Callers, and the client that they share. -/
structure Crowd (ι ω : Type) where
  client : Client ω
  places : ι → Place ω

namespace Crowd

/-- What can be told of a step: whose it is, if it is a caller's, and which frames were written. -/
structure Act (ι : Type) where
  who : Option ι
  frames : List Frame := []

variable [DecidableEq ι]

/-- A crowd after a step of a caller. -/
def move (s : Crowd ι ω) (i : ι) (x : Place ω × Client ω) : Crowd ι ω where
  client := x.2
  places := Function.update s.places i x.1

@[simp] theorem places_move_self (s : Crowd ι ω) (i : ι) (x : Place ω × Client ω) :
    (s.move i x).places i = x.1 := by
  show Function.update s.places i x.1 i = x.1
  exact Function.update_self ..

theorem places_move_of_ne {i j : ι} (h : j ≠ i) (s : Crowd ι ω) (x : Place ω × Client ω) :
    (s.move i x).places j = s.places j := by
  show Function.update s.places i x.1 j = s.places j
  exact Function.update_of_ne h ..

/-- The frames that a caller wrote. -/
def written (i : ι) (trace : List (Act ι)) : List Frame :=
  trace.flatMap fun act => if act.who = some i then act.frames else []

/-- A step of a crowd: something that concerns neither session nor channel, or the next step of
a caller. -/
inductive Step (env : Environment ω) (calls : ι → Call) (s : Crowd ι ω) :
    Act ι → Crowd ι ω → Prop
  | outside {c : Client ω} (steady : s.client.Steady c) (wire : c.wire = s.client.wire) :
    Step env calls s { who := none } { s with client := c }
  | caller (i : ι) (goesOn : (s.places i).isOver = false) :
    Step env calls s
      { who := some i
        frames := wroteBetween s.client ((calls i).go env (s.places i) s.client).2 }
      (s.move i ((calls i).go env (s.places i) s.client))

/-- The steps that led from one state of a crowd to another. -/
inductive Run (env : Environment ω) (calls : ι → Call) (start : Crowd ι ω) :
    List (Act ι) → Crowd ι ω → Prop
  | nil : Run env calls start [] start
  | snoc {trace : List (Act ι)} {s s' : Crowd ι ω} {act : Act ι} :
    Run env calls start trace s → Step env calls s act s' → Run env calls start (trace ++ [act]) s'

/-- A crowd on an open session, before anybody has begun: nobody has taken the lock, and the far
end owes nothing. -/
structure Begun (law : InOrder env.wire τ) (s : Crowd ι ω) : Prop where
  isOpen : s.client.session.phase = .open
  free : s.client.session.outstanding = false
  idle : law.owing s.client.wire = []
  places : ∀ i, s.places i = .begun

variable {calls : ι → Call} {start s s' : Crowd ι ω} {trace : List (Act ι)} {act : Act ι} {i j : ι}

theorem written_append (trace : List (Act ι)) (act : Act ι) :
    written i (trace ++ [act]) = written i trace ++ if act.who = some i then act.frames else [] := by
  unfold written
  rw [List.flatMap_append, List.flatMap_singleton]

/-- A step that is another's, or writes nothing, adds nothing to what a caller wrote. -/
theorem written_append_of (h : act.who ≠ some i ∨ act.frames = []) :
    written i (trace ++ [act]) = written i trace := by
  rw [written_append]
  split
  · next own => rw [h.resolve_left fun other => other own, List.append_nil]
  · exact List.append_nil _

/-- The frames on the channel are those that were there and those of the steps. -/
theorem Run.frames (run : Run env calls start trace s) :
    s.client.frames = start.client.frames ++ trace.flatMap Act.frames := by
  induction run with
  | nil => exact (List.append_nil _).symm
  | snoc _ step ih =>
    rw [List.flatMap_append, ← List.append_assoc, ← ih, List.flatMap_singleton]
    cases step with
    | outside steady wire => exact steady.frames
    | caller i goesOn => exact frames_wroteBetween _ _

/-! ### What each caller is entitled to -/

/-- A caller's own frame: what its request is encoded as, and taken by the far end in the state
`w`. -/
structure Asked (env : Environment ω) (compressing : Bool) (request : Value) (w : ω)
    (frame : Frame) : Prop where
  encoded : encode env.codec compressing request = .ok frame.payload
  binary : frame.binary = compressing
  taken : (env.wire.send frame w).result = .ok ()

/-- In the course of a run a caller wrote a frame to the far end in the state `w`. -/
def WroteTo (env : Environment ω) (calls : ι → Call) (start : Crowd ι ω) (trace : List (Act ι))
    (i : ι) (w : ω) (frame : Frame) : Prop :=
  ∃ before after s, trace = before ++ { who := some i, frames := [frame] } :: after ∧
    Run env calls start before s ∧ s.client.wire = w

theorem WroteTo.append {w : ω} {frame : Frame} (h : WroteTo env calls start trace i w frame)
    (act : Act ι) : WroteTo env calls start (trace ++ [act]) i w frame := by
  obtain ⟨before, after, s, rfl, rest⟩ := h
  exact ⟨before, after ++ [act], s, by rw [List.append_assoc, List.cons_append], rest⟩

/-- A caller waits for its reply: the session is open, and the far end owes the reply to the
caller's own frame and nothing else. -/
structure Awaits (law : InOrder env.wire τ) (compressing : Bool) (calls : ι → Call)
    (start : Crowd ι ω) (trace : List (Act ι)) (c : Client ω) (i : ι) (w : ω) : Prop where
  isOpen : c.session.phase = .open
  owed : ∃ frame, Asked env compressing (calls i).request w frame ∧
    WroteTo env calls start trace i w frame ∧ law.owing c.wire = [law.mark frame w]

/-- What a caller has read is the far end's answer to the caller's own frame. -/
def Heard (law : InOrder env.wire τ) (compressing : Bool) (calls : ι → Call)
    (start : Crowd ι ω) (trace : List (Act ι)) (i : ι) (w : ω) (entries : List (Value × Value)) :
    Prop :=
  ∃ frame bs, Asked env compressing (calls i).request w frame ∧
    WroteTo env calls start trace i w frame ∧ law.Answers (law.mark frame w) bs ∧
    decode env.codec compressing bs = .ok entries

/-- What holds of a caller and the client at each place. -/
def Fits (law : InOrder env.wire τ) (compressing : Bool) (calls : ι → Call) (start : Crowd ι ω)
    (trace : List (Act ι)) (c : Client ω) (i : ι) : Place ω → Prop
  | .begun => written i trace = []
  | .refused f => f = busy ∧ written i trace = []
  | .cleared => c.session.Carries
  | .waiting w _ | .listening w _ | .aborting w _ | .reading w =>
    Awaits law compressing calls start trace c i w
  | .heard w entries | .decoding w entries | .decoded w entries =>
    Heard law compressing calls start trace i w entries
  | .admitted | .failing _ | .raised _ => True

variable {law : InOrder env.wire τ} {compressing : Bool} {c c' : Client ω} {w : ω} {p : Place ω}

theorem Awaits.append (h : Awaits law compressing calls start trace c i w) (act : Act ι) :
    Awaits law compressing calls start (trace ++ [act]) c i w := by
  obtain ⟨frame, asked, wrote, owed⟩ := h.owed
  exact ⟨h.isOpen, frame, asked, wrote.append act, owed⟩

theorem Awaits.carry (h : Awaits law compressing calls start trace c i w)
    (session : c'.session = c.session) (wire : law.owing c'.wire = law.owing c.wire) :
    Awaits law compressing calls start trace c' i w := by
  obtain ⟨frame, asked, wrote, owed⟩ := h.owed
  exact ⟨session ▸ h.isOpen, frame, asked, wrote, wire.trans owed⟩

theorem Heard.append {entries : List (Value × Value)}
    (h : Heard law compressing calls start trace i w entries) (act : Act ι) :
    Heard law compressing calls start (trace ++ [act]) i w entries := by
  obtain ⟨frame, bs, asked, wrote, rest⟩ := h
  exact ⟨frame, bs, asked, wrote.append act, rest⟩

/-- What holds of a caller still holds after a step of somebody else, who leaves session and
channel to the caller if it has the lock. -/
theorem Fits.carry (h : Fits law compressing calls start trace c i p) {act : Act ι}
    (others : act.who ≠ some i)
    (same : p.holds = true → c'.session = c.session ∧ c'.wire = c.wire) :
    Fits law compressing calls start (trace ++ [act]) c' i p := by
  have silent : written i (trace ++ [act]) = written i trace := written_append_of (.inl others)
  cases p with
  | begun => exact silent.trans h
  | refused f => exact ⟨h.1, silent.trans h.2⟩
  | cleared =>
    show c'.session.Carries
    rw [(same rfl).1]
    exact h
  | waiting | listening | aborting | reading =>
    exact (Awaits.carry h (same rfl).1 (congrArg law.owing (same rfl).2)).append act
  | heard | decoding | decoded => exact Heard.append h act
  | admitted | failing | raised => trivial

/-! ### The holder of the lock -/

/-- What holds of the one who has taken the lock, and of the client. -/
structure Kept (law : InOrder env.wire τ) (compressing : Bool) (calls : ι → Call)
    (start : Crowd ι ω) (trace : List (Act ι)) (c : Client ω) (i : ι) (p : Place ω) : Prop where
  holds : p.holds = true
  outstanding : c.session.outstanding = true
  compresses : c.session.compressing = compressing
  fits : Fits law compressing calls start trace c i p
  /-- in an open session nothing is owed but what the holder waits for -/
  settled : p.asked = none → c.session.phase = .open → law.owing c.wire = []

/-- A caller that waits for its reply hears it, or breaks the session. -/
theorem Kept.hear {act : Act ι} {a : Action ω (List (Value × Value))}
    (ends : Ends a c (Replied env c)) (outstanding : c.session.outstanding = true)
    (compresses : c.session.compressing = compressing)
    (awaits : Awaits law compressing calls start trace c i w) :
    Kept law compressing calls start (trace ++ [act]) (Place.hear w a c).2 i
      (Place.hear w a c).1 := by
  unfold Ends at ends
  unfold Place.hear
  generalize a c = turn at ends ⊢
  obtain ⟨r, c'⟩ := turn
  cases ends with
  | failed _ _ goes =>
    have session : c'.session = c.session.broken := goes.session
    refine ⟨rfl, ?_, ?_, trivial, fun _ opens => ?_⟩
    · exact (congrArg Session.outstanding session).trans outstanding
    · exact (congrArg Session.compressing session).trans compresses
    · rw [session] at opens
      cases opens
  | @given bs entries w₁ _ polled given wire read goes =>
    have session : c'.session = c.session := goes.session
    obtain ⟨frame, asked, wrote, owed⟩ := awaits.owed
    -- nothing else is owed, so the reply that comes is the one to the own frame
    have owing : law.owing w₁ = [law.mark frame w] := (InOrder.owing_polled law polled).trans owed
    obtain ⟨t, first, answers⟩ := law.given given
    obtain ⟨rfl, rest⟩ := List.cons.inj (first.symm.trans owing)
    refine ⟨rfl, ?_, ?_, ?_, fun _ _ => ?_⟩
    · exact (congrArg Session.outstanding session).trans outstanding
    · exact (congrArg Session.compressing session).trans compresses
    · exact ⟨frame, bs, asked, wrote.append act, answers, compresses ▸ read⟩
    · rw [wire]
      exact rest

/-- The frame of a caller is taken while nothing is owed, so that its reply is the only one to
come. -/
theorem Kept.wrote {act : Act ι} (kept : Kept law compressing calls start trace s.client i .cleared)
    (run : Run env calls start trace s)
    (acts : act = {
      who := some i, frames := wroteBetween s.client (write env (calls i).request s.client).2 }) :
    Kept law compressing calls start (trace ++ [act]) (write env (calls i).request s.client).2 i
      (.next (write env (calls i).request s.client).1 fun _ => (calls i).await s.client.wire) := by
  have carries : s.client.session.Carries := kept.fits
  have idle := kept.settled rfl carries.isOpen
  have ends := ends_write env (calls i).request s.client
  unfold Ends at ends
  generalize write env (calls i).request s.client = turn at ends acts ⊢
  obtain ⟨r, c'⟩ := turn
  cases ends with
  | refused => exact ⟨rfl, kept.outstanding, kept.compresses, trivial, fun _ _ => idle⟩
  | failed _ goes =>
    have session : c'.session = s.client.session.broken := goes.session
    refine ⟨rfl, ?_, ?_, trivial, fun _ opens => ?_⟩
    · exact (congrArg Session.outstanding session).trans kept.outstanding
    · exact (congrArg Session.compressing session).trans kept.compresses
    · rw [session] at opens
      cases opens
  | @done payload _ encoded sent =>
    obtain _ | ⟨taken, wire, goes⟩ := sent
    have session : c'.session = s.client.session := goes.session
    rw [wroteBetween_of_frames goes.frames] at acts
    have awaits : Awaits law compressing calls start (trace ++ [act]) c' i s.client.wire := by
      refine ⟨session ▸ carries.isOpen, ⟨payload, s.client.session.compressing⟩, ?_, ?_, ?_⟩
      · exact ⟨kept.compresses ▸ encoded, kept.compresses, taken⟩
      · exact ⟨trace, [], s, by rw [acts]; rfl, run, rfl⟩
      · rw [wire, law.taken taken, idle]
        rfl
    have outstanding := (congrArg Session.outstanding session).trans kept.outstanding
    have compresses := (congrArg Session.compressing session).trans kept.compresses
    show Kept law compressing calls start (trace ++ [act]) c' i ((calls i).await s.client.wire)
    unfold Call.await
    split
    · exact ⟨rfl, outstanding, compresses, awaits, fun waits => nomatch waits⟩
    · exact ⟨rfl, outstanding, compresses, awaits, fun waits => nomatch waits⟩

/-- Whoever asks the scope or the channel while the reply is awaited goes on waiting. -/
theorem Kept.steady {p' : Place ω} {act : Act ι} (outstanding : c.session.outstanding = true)
    (compresses : c.session.compressing = compressing)
    (awaits : Awaits law compressing calls start trace c i w) (steady : c.Steady c')
    (polled : Channel.Polled env c.wire c'.wire) (asked : p'.asked = some w) :
    Kept law compressing calls start (trace ++ [act]) c' i p' := by
  have awaits' := (awaits.carry steady.session (InOrder.owing_polled law polled)).append act
  refine ⟨?_, ?_, ?_, ?_, fun waits => ?_⟩
  · cases p' <;> first | rfl | cases asked
  · exact (congrArg Session.outstanding steady.session).trans outstanding
  · exact (congrArg Session.compressing steady.session).trans compresses
  · cases p' <;> first | (cases asked; exact awaits') | cases asked
  · exact absurd (asked.symm.trans waits) (Option.some_ne_none w)

/-- A step of the one who has the lock, in the middle of the exchange. -/
theorem Kept.go (kept : Kept law compressing calls start trace s.client i p)
    (run : Run env calls start trace s) {act : Act ι}
    (acts : act = {
      who := some i, frames := wroteBetween s.client ((calls i).go env p s.client).2 })
    (exchanges : p.exchanges = true) :
    Kept law compressing calls start (trace ++ [act]) ((calls i).go env p s.client).2 i
      ((calls i).go env p s.client).1 := by
  have outstanding := kept.outstanding
  have compresses := kept.compresses
  cases p with
  | begun | refused | decoding | raised | decoded | heard | failing => cases exchanges
  | admitted =>
    have settled := kept.settled rfl
    show Kept law compressing calls start (trace ++ [act]) s.client i
      (.next (s.client.session.usable (calls i).request) fun _ => .cleared)
    cases usable : s.client.session.usable (calls i).request with
    | error f => exact ⟨rfl, outstanding, compresses, trivial, fun _ => settled⟩
    | ok _ => exact ⟨rfl, outstanding, compresses, carries_of_usable usable, fun _ => settled⟩
  | cleared => exact kept.wrote run acts
  | waiting w scope =>
    have steady := s.client.steady_poll scope
    simp only [Call.go]
    split <;> exact .steady outstanding compresses kept.fits steady .refl rfl
  | listening w scope =>
    obtain ⟨steady, polled⟩ := Channel.polled_poll env s.client
    simp only [Call.go]
    split
    · exact .steady outstanding compresses kept.fits steady polled rfl
    · exact .steady outstanding compresses kept.fits (steady.steady (steady_idle _))
        (Client.wire_idle (Channel.poll env s.client).2 ▸ polled) rfl
    · refine .hear (replied_orBreak env _ _) ?_ ?_ ?_
      · exact (congrArg Session.outstanding steady.session).trans outstanding
      · exact (congrArg Session.compressing steady.session).trans compresses
      · exact Awaits.carry kept.fits steady.session (InOrder.owing_polled law polled)
  | aborting w cause => exact .hear (ends_abort env cause _) outstanding compresses kept.fits
  | reading w => exact .hear (ends_read env _) outstanding compresses kept.fits

/-! ### The crowd -/

/-- What holds of a crowd after every run. -/
structure Sound (law : InOrder env.wire τ) (compressing : Bool) (calls : ι → Call)
    (start : Crowd ι ω) (trace : List (Act ι)) (s : Crowd ι ω) : Prop where
  compresses : s.client.session.compressing = compressing
  /-- one caller at most has the lock -/
  alone : ∀ i j, (s.places i).holds → (s.places j).holds → i = j
  locked : s.client.session.outstanding = true ↔ ∃ i, (s.places i).holds = true
  fits : ∀ i, Fits law compressing calls start trace s.client i (s.places i)
  /-- in an open session in which nobody waits nothing is owed -/
  settled : s.client.session.phase = .open → (∀ i, (s.places i).asked = none) →
    law.owing s.client.wire = []

theorem Begun.sound (begun : Begun law s) :
    Sound law s.client.session.compressing calls start [] s := by
  have nobody (i : ι) : (s.places i).holds = false := by rw [begun.places i]; rfl
  refine ⟨rfl, fun i _ h => ?_, ⟨fun h => ?_, fun ⟨i, h⟩ => ?_⟩, fun i => ?_, fun _ _ => begun.idle⟩
  · exact absurd ((nobody i).symm.trans h) Bool.false_ne_true
  · exact absurd (begun.free.symm.trans h) Bool.false_ne_true
  · exact absurd ((nobody i).symm.trans h) Bool.false_ne_true
  · rw [begun.places i]
    rfl

theorem asked_of_not_holds (h : p.holds = false) : p.asked = none := by
  cases p <;> first | rfl | cases h

/-- Nobody else has the lock. -/
theorem Sound.others (sound : Sound law compressing calls start trace s)
    (holds : (s.places i).holds = true) (other : j ≠ i) : (s.places j).holds = false := by
  cases holds' : (s.places j).holds with
  | true => exact absurd (sound.alone j i holds' holds) other
  | false => rfl

/-- What holds of a crowd, told of the one who has the lock. -/
theorem Sound.kept (sound : Sound law compressing calls start trace s)
    (holds : (s.places i).holds = true) :
    Kept law compressing calls start trace s.client i (s.places i) where
  holds := holds
  outstanding := sound.locked.mpr ⟨i, holds⟩
  compresses := sound.compresses
  fits := sound.fits i
  settled := by
    intro waits opens
    refine sound.settled opens fun j => ?_
    by_cases own : j = i
    · rw [own]
      exact waits
    · exact asked_of_not_holds (sound.others holds own)

/-- What a step of a caller has to show: how the lock stands then, that a caller who has it sees
nothing of a step of somebody else, and what holds of the one who took the step. -/
theorem Sound.moved (sound : Sound law compressing calls start trace s) {act : Act ι}
    (acts : act.who = some i) (compresses : c.session.compressing = compressing)
    (unseen : ∀ j, j ≠ i → (s.places j).holds = true →
      c.session = s.client.session ∧ c.wire = s.client.wire)
    (alone : p.holds = true → ∀ j, j ≠ i → (s.places j).holds = false)
    (locked : c.session.outstanding = true ↔
      p.holds = true ∨ ∃ j, j ≠ i ∧ (s.places j).holds = true)
    (fits : Fits law compressing calls start (trace ++ [act]) c i p)
    (settled : c.session.phase = .open → p.asked = none →
      (∀ j, j ≠ i → (s.places j).asked = none) → law.owing c.wire = []) :
    Sound law compressing calls start (trace ++ [act]) (s.move i (p, c)) := by
  refine ⟨compresses, fun j k hj hk => ?_, locked.trans ⟨?_, ?_⟩, fun j => ?_, fun opens waits => ?_⟩
  · by_cases ownj : j = i <;> by_cases ownk : k = i
    · exact ownj.trans ownk.symm
    · rw [ownj, places_move_self] at hj
      rw [places_move_of_ne ownk, alone hj k ownk] at hk
      exact absurd hk Bool.false_ne_true
    · rw [ownk, places_move_self] at hk
      rw [places_move_of_ne ownj, alone hk j ownj] at hj
      exact absurd hj Bool.false_ne_true
    · rw [places_move_of_ne ownj] at hj
      rw [places_move_of_ne ownk] at hk
      exact sound.alone j k hj hk
  · rintro (h | ⟨j, other, h⟩)
    · exact ⟨i, by rwa [places_move_self]⟩
    · exact ⟨j, by rwa [places_move_of_ne other]⟩
  · rintro ⟨j, h⟩
    by_cases own : j = i
    · rw [own, places_move_self] at h
      exact .inl h
    · rw [places_move_of_ne own] at h
      exact .inr ⟨j, own, h⟩
  · by_cases own : j = i
    · rw [own, places_move_self]
      exact fits
    · rw [places_move_of_ne own]
      exact (sound.fits j).carry (fun h => own (Option.some.inj (h.symm.trans acts))) (unseen j own)
  · refine settled opens ?_ fun j other => ?_
    · have waits := waits i
      rwa [places_move_self] at waits
    · have waits := waits j
      rwa [places_move_of_ne other] at waits

/-- A step of a caller that neither had the lock nor has it then, and changes nothing. -/
theorem Sound.still (sound : Sound law compressing calls start trace s) {act : Act ι}
    (acts : act.who = some i) (free : (s.places i).holds = false) (free' : p.holds = false)
    (fits : Fits law compressing calls start (trace ++ [act]) s.client i p) :
    Sound law compressing calls start (trace ++ [act]) (s.move i (p, s.client)) := by
  have notOwn {j : ι} (h : (s.places j).holds = true) : j ≠ i := by
    rintro rfl
    exact absurd (free.symm.trans h) Bool.false_ne_true
  refine sound.moved acts sound.compresses (fun _ _ _ => ⟨rfl, rfl⟩) ?_ ?_ fits ?_
  · exact fun h => absurd (free'.symm.trans h) Bool.false_ne_true
  · refine sound.locked.trans ⟨fun ⟨j, h⟩ => .inr ⟨j, notOwn h, h⟩, ?_⟩
    rintro (h | ⟨j, -, h⟩)
    · exact absurd (free'.symm.trans h) Bool.false_ne_true
    · exact ⟨j, h⟩
  · intro opens _ waits
    refine sound.settled opens fun j => ?_
    by_cases own : j = i
    · rw [own]
      exact asked_of_not_holds free
    · exact waits j own

/-- The lock is taken by a caller while nobody has it. -/
theorem Sound.takes (sound : Sound law compressing calls start trace s) {act : Act ι}
    (acts : act.who = some i) (free : s.client.session.outstanding = false) :
    Sound law compressing calls start (trace ++ [act]) (s.move i (.admitted, marked s.client)) := by
  have nobody (j : ι) : (s.places j).holds = false := by
    cases h : (s.places j).holds with
    | true => exact absurd (free.symm.trans (sound.locked.mpr ⟨j, h⟩)) Bool.false_ne_true
    | false => rfl
  refine sound.moved acts sound.compresses ?_ (fun _ j _ => nobody j) ?_ trivial ?_
  · exact fun j _ h => absurd ((nobody j).symm.trans h) Bool.false_ne_true
  · exact ⟨fun _ => .inl rfl, fun _ => rfl⟩
  · exact fun opens _ _ => sound.settled opens fun j => asked_of_not_holds (nobody j)

/-- The one who has the lock goes on. -/
theorem Sound.keeps (sound : Sound law compressing calls start trace s) {act : Act ι}
    (acts : act.who = some i) (holds : (s.places i).holds = true)
    (kept : Kept law compressing calls start (trace ++ [act]) c i p) :
    Sound law compressing calls start (trace ++ [act]) (s.move i (p, c)) := by
  have others (j : ι) (other : j ≠ i) : (s.places j).holds = false := sound.others holds other
  refine sound.moved acts kept.compresses ?_ (fun _ => others) ?_ kept.fits ?_
  · exact fun j other h => absurd ((others j other).symm.trans h) Bool.false_ne_true
  · exact ⟨fun _ => .inl kept.holds, fun _ => kept.outstanding⟩
  · exact fun opens waits _ => kept.settled waits opens

/-- The one who has the lock gives it back. -/
theorem Sound.gives (sound : Sound law compressing calls start trace s) {act : Act ι}
    (acts : act.who = some i) (holds : (s.places i).holds = true) (waits : (s.places i).asked = none)
    (free : p.holds = false)
    (fits : Fits law compressing calls start (trace ++ [act]) (unmarked s.client) i p) :
    Sound law compressing calls start (trace ++ [act]) (s.move i (p, unmarked s.client)) := by
  have others (j : ι) (other : j ≠ i) : (s.places j).holds = false := sound.others holds other
  refine sound.moved acts sound.compresses ?_ (fun _ => others) ⟨(fun h => nomatch h), ?_⟩ fits ?_
  · exact fun j other h => absurd ((others j other).symm.trans h) Bool.false_ne_true
  · rintro (h | ⟨j, other, h⟩)
    · exact absurd (free.symm.trans h) Bool.false_ne_true
    · exact absurd ((others j other).symm.trans h) Bool.false_ne_true
  · exact fun opens _ _ => (sound.kept holds).settled waits opens

/-- A caller takes the lock, or is refused. -/
theorem Sound.begins (sound : Sound law compressing calls start trace s) {act : Act ι}
    (place : s.places i = .begun) (acts : act = {
      who := some i, frames := wroteBetween s.client ((calls i).go env .begun s.client).2 }) :
    Sound law compressing calls start (trace ++ [act])
      (s.move i ((calls i).go env .begun s.client)) := by
  have who : act.who = some i := congrArg Act.who acts
  cases grant : s.client.session.grant with
  | ok _ =>
    have takes : (calls i).go env .begun s.client = (.admitted, marked s.client) := by
      simp only [Call.go, grant]
    rw [takes]
    exact sound.takes who (free_of_grant grant)
  | error f =>
    have refuses : (calls i).go env .begun s.client = (.refused f, s.client) := by
      simp only [Call.go, grant]
    rw [refuses] at acts ⊢
    have silent : written i (trace ++ [act]) = written i trace :=
      written_append_of (.inr ((congrArg Act.frames acts).trans (wroteBetween_self s.client)))
    have fits := sound.fits i
    rw [place] at fits
    exact sound.still who (place ▸ rfl) rfl ⟨eq_busy_of_grant grant, silent.trans fits⟩

/-- Others leave the session and its channel alone. -/
theorem Sound.outside (sound : Sound law compressing calls start trace s) {act : Act ι}
    (nobody : act.who = none) (steady : s.client.Steady c) (wire : c.wire = s.client.wire) :
    Sound law compressing calls start (trace ++ [act]) { s with client := c } := by
  have session : c.session = s.client.session := steady.session
  refine ⟨?_, sound.alone, ?_, fun i => ?_, fun opens waits => ?_⟩
  · exact (congrArg Session.compressing session).trans sound.compresses
  · exact (congrArg (·.outstanding = true) session) ▸ sound.locked
  · have others : act.who ≠ some i := nobody ▸ (Option.some_ne_none i).symm
    exact (sound.fits i).carry others fun _ => ⟨session, wire⟩
  · show law.owing c.wire = []
    rw [wire]
    exact sound.settled (session ▸ opens) waits

/-- Every step keeps what holds of a crowd. -/
theorem Sound.step (sound : Sound law compressing calls start trace s)
    (run : Run env calls start trace s) (h : Step env calls s act s') :
    Sound law compressing calls start (trace ++ [act]) s' := by
  cases h with
  | outside steady wire => exact sound.outside rfl steady wire
  | caller i goesOn =>
    have fits := sound.fits i
    cases place : s.places i with
    | refused | raised | decoded =>
      rw [place] at goesOn
      exact absurd goesOn.symm Bool.false_ne_true
    | begun => exact sound.begins place rfl
    | decoding w entries =>
      rw [place] at fits
      exact sound.still rfl (place ▸ rfl) rfl (Heard.append fits _)
    | heard w entries =>
      rw [place] at fits
      exact sound.gives rfl (place ▸ rfl) (place ▸ rfl) rfl (Heard.append fits _)
    | failing f => exact sound.gives rfl (place ▸ rfl) (place ▸ rfl) rfl trivial
    | admitted | cleared | waiting | listening | aborting | reading =>
      have holds : (s.places i).holds = true := place ▸ rfl
      rw [← place]
      exact sound.keeps rfl holds ((sound.kept holds).go run rfl (place ▸ rfl))

theorem Run.sound (begun : Begun law start) (run : Run env calls start trace s) :
    Sound law start.client.session.compressing calls start trace s := by
  induction run with
  | nil => exact begun.sound
  | snoc run step ih => exact ih.step run step

/-! ### What callers may rely on -/

/-- What callers may rely on after any steps of a crowd that began in `start`. -/
structure Orderly (law : InOrder env.wire τ) (calls : ι → Call) (start : Crowd ι ω)
    (trace : List (Act ι)) (s : Crowd ι ω) : Prop where
  /-- the steps tell all frames that are written -/
  frames : s.client.frames = start.client.frames ++ trace.flatMap Act.frames
  /-- one caller at most has the lock, from before it writes until it has read -/
  alone : ∀ i j, (s.places i).holds → (s.places j).holds → i = j
  /-- a caller that finds the lock taken is refused at once -/
  refuses : ∀ i, s.places i = .begun → s.client.session.outstanding = true →
    (calls i).go env (s.places i) s.client = (.refused busy, s.client)
  /-- whoever is refused is told so and has written nothing -/
  refused : ∀ i f, s.places i = .refused f → f = busy ∧ written i trace = []
  /-- whatever a caller has read, decoded or not, answers the frame that it wrote itself -/
  own : ∀ i w entries, (s.places i).reply = some (w, entries) → ∃ frame bs,
    Asked env start.client.session.compressing (calls i).request w frame ∧
      WroteTo env calls start trace i w frame ∧ law.Answers (law.mark frame w) bs ∧
      decode env.codec start.client.session.compressing bs = .ok entries
  /-- the lock is taken only as long as a caller has it, so it is free when all calls have ended -/
  locked : s.client.session.outstanding = true ↔ ∃ i, (s.places i).holds = true
  free : (∀ i, (s.places i).isOver) → s.client.session.outstanding = false

theorem holds_of_isOver (h : p.isOver = true) : p.holds = false := by
  cases p <;> first | rfl | cases h

/-- However the steps of any number of callers fall, one exchange at most is under way. -/
theorem run_orderly (begun : Begun law start) (run : Run env calls start trace s) :
    Orderly law calls start trace s := by
  have sound := run.sound begun
  refine ⟨run.frames, sound.alone, ?refuses, ?refused, ?own, sound.locked, ?free⟩
  case refuses =>
    intro i begins taken
    rw [begins]
    simp only [Call.go, grant_of_outstanding taken]
  case refused =>
    intro i f place
    have fits := sound.fits i
    rw [place] at fits
    exact fits
  case own =>
    intro i w entries reply
    have fits := sound.fits i
    cases place : s.places i with
    | heard | decoding | decoded =>
      rw [place] at fits reply
      cases reply
      exact fits
    | _ =>
      rw [place] at reply
      cases reply
  case free =>
    intro ended
    cases taken : s.client.session.outstanding with
    | false => rfl
    | true =>
      obtain ⟨i, holds⟩ := sound.locked.mp taken
      exact absurd ((holds_of_isOver (ended i)).symm.trans holds) Bool.false_ne_true

/-! ### A far end that numbers its replies -/

/-- A reply that carries a number. -/
def numbered (n : Nat) : Bytes := Script.cannedReply [toString n]

/-- A far end that numbers the frames that it takes, and answers each with its number. -/
def numbering : Wire (Nat × List Nat) where
  send _ w := { result := .ok (), rest := (w.1 + 1, w.2 ++ [w.1]) }
  poll w := { result := .ok true, rest := w }
  receive
    | (n, []) => { result := .ok none, rest := (n, []) }
    | (n, k :: rest) => { result := .ok (some (numbered k)), rest := (n, rest) }
  close w := { result := .ok (), rest := w }
  patience _ := 0
  patience_lt _ h := by cases h

/-- An environment whose far end numbers its replies. -/
def numberingEnvironment : Environment (Nat × List Nat) :=
  { Script.cannedEnvironment with wire := numbering }

theorem numbering_given {w : Nat × List Nat} {bs : Bytes}
    (h : (numbering.receive w).result = .ok (some bs)) :
    ∃ t, w.2 = t :: (numbering.receive w).rest.2 ∧ bs = numbered t := by
  obtain ⟨n, _ | ⟨k, rest⟩⟩ := w
  · cases h
  · cases h
    exact ⟨k, rfl, rfl⟩

/-- The far end answers each frame with the number that it had. -/
def numberingInOrder : InOrder numberingEnvironment.wire Nat where
  mark _ w := w.1
  owing w := w.2
  Answers n bs := bs = numbered n
  taken _ := rfl
  polled _ := rfl
  given := numbering_given

/-- Two callers, of whom one finds the lock taken while the other one waits for its reply. -/
theorem pair_orderly :
    let calls : Bool → Call := fun _ => { request := Command.closeResultSet [] }
    let start : Crowd Bool (Nat × List Nat) := {
      client := { session := { phase := .open, attached := true }, wire := (7, []) }
      places := fun _ => .begun }
    ∃ trace s, Run numberingEnvironment calls start trace s ∧ s.places false = .refused busy ∧
      (s.places true).isOver ∧ (s.places true).reply.map (·.1.1) = some 7 ∧
      s.client.session.outstanding = false ∧ Orderly numberingInOrder calls start trace s := by
  intro calls start
  have begun : Begun numberingInOrder start := ⟨rfl, rfl, rfl, fun _ => rfl⟩
  have admitted : Run numberingEnvironment calls start _ _ := .snoc .nil (.caller true rfl)
  have cleared := admitted.snoc (.caller true rfl)
  have waits := cleared.snoc (.caller true (by decide +kernel))
  have refused := waits.snoc (.caller false rfl)
  have heard := refused.snoc (.caller true (by decide +kernel))
  have unlocked := heard.snoc (.caller true (by decide +kernel))
  have run := unlocked.snoc (.caller true (by decide +kernel))
  refine ⟨_, _, run, rfl, ?_, ?_, ?_, run_orderly begun run⟩
  · decide +kernel
  · decide +kernel
  · decide +kernel

end Crowd

end Session

end ExaWire
