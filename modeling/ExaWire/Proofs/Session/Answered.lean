/-
ExaWire/Proofs/Session/Answered.lean

Requests to a far end that answers.

`ends_send` tells all ways in which a request may end.  Here the far end is known to
take the frame and to give a reply that can be read, and then there is only one.

A far end that gives one reply to every frame is *idle* between two exchanges: no
reply is to come.  As long as a session stays open, every exchange on it was
completed, whatever it was about, so the far end is idle whenever a request begins.
-/
import ExaWire.Proofs.Session.Closing

namespace ExaWire

open Network

variable {ω α : Type} {env : Environment ω} {c : Client ω}

/-! ### One request -/

/-- A far end in the state `w` answers a request: it takes the frame, and what is read next is
the payload of a reply.  `w'` is its state then. -/
structure Network.Answers (env : Environment ω) (compressing : Bool) (request : Value) (w : ω)
    (payload bs : Bytes) (entries : List (Value × Value)) (w' : ω) : Prop where
  encoded : Session.encode env.codec compressing request = .ok payload
  taken : (env.wire.send ⟨payload, compressing⟩ w).result = .ok ()
  given : (env.wire.receive (env.wire.send ⟨payload, compressing⟩ w).rest).result = .ok (some bs)
  wire : w' = (env.wire.receive (env.wire.send ⟨payload, compressing⟩ w).rest).rest
  decoded : Session.decode env.codec compressing bs = .ok entries

namespace Channel

theorem ends_send_taken {frame : Frame} (h : (env.wire.send frame c.wire).result = .ok ()) :
    Ends (send env frame) c fun r c' =>
      r = .ok () ∧ c'.wire = (env.wire.send frame c.wire).rest ∧
        c.Goes c' c.session [.sent frame] := by
  refine (ends_send env frame c).mono ?_
  rintro r c' (⟨why, -⟩ | ⟨-, wire, goes⟩)
  · cases h.symm.trans why
  · exact ⟨rfl, wire, goes⟩

theorem ends_receive_given {bs : Bytes} (h : (env.wire.receive c.wire).result = .ok (some bs)) :
    Ends (receive env) c fun r c' =>
      r = .ok bs ∧ c'.wire = (env.wire.receive c.wire).rest ∧
        c.Goes c' c.session [.received bs] := by
  refine (ends_receive env c).mono ?_
  rintro r c' (⟨why, -⟩ | ⟨given, wire, goes⟩)
  · exact absurd h (why bs)
  · cases h.symm.trans given
    exact ⟨rfl, wire, goes⟩

end Channel

namespace Session

open ExaWire.Action

variable {request name : Value} {payload bs : Bytes} {entries : List (Value × Value)} {w : ω}

theorem usable_of_carries {s : Session} (h : s.Carries) (request : Value) :
    s.usable request = .ok () := by
  unfold usable
  rw [h.isOpen]
  exact if_pos h.attached

theorem ends_write_taken {named : String} (hn : nameOf request = .ok named)
    (encoded : encode env.codec c.session.compressing request = .ok payload)
    (taken : (env.wire.send ⟨payload, c.session.compressing⟩ c.wire).result = .ok ()) :
    Ends (write env request) c fun r c' =>
      r = .ok () ∧ c'.wire = (env.wire.send ⟨payload, c.session.compressing⟩ c.wire).rest ∧
        c.Goes c' c.session [.sent ⟨payload, c.session.compressing⟩] := by
  have quiet := c.steady_annotate [⟨.debug, "-> " ++ named⟩]
  refine .session (.ofAttempt_ok encoded (.ofAttempt_ok hn ?_))
  refine .note (.attempt (Channel.ends_send_taken taken) ?_)
  rintro _ c₁ ⟨rfl, wire, goes⟩
  exact .pure ⟨rfl, wire, .afterSteady quiet goes⟩

theorem ends_read_given (given : (env.wire.receive c.wire).result = .ok (some bs))
    (decoded : decode env.codec c.session.compressing bs = .ok entries) :
    Ends (read env) c fun r c' =>
      r = .ok entries ∧ c'.wire = (env.wire.receive c.wire).rest ∧
        c.Goes c' c.session [.received bs] := by
  refine .attempt (Channel.ends_receive_given given) ?_
  rintro _ c₁ ⟨rfl, wire, goes⟩
  have taken : (orBreak (.ok bs) : Action ω Bytes) = pure bs := rfl
  rw [taken, pure_bind]
  refine .session ?_
  rw [goes.session, decoded]
  exact .pure ⟨rfl, wire, goes⟩

theorem ends_exchange_answered {named : String} (carries : c.session.Carries)
    (hn : nameOf request = .ok named)
    (h : Network.Answers env c.session.compressing request c.wire payload bs entries w) :
    Ends (exchange env request none) c fun r c' =>
      r = .ok entries ∧ c'.wire = w ∧
        c.Goes c' c.session [.sent ⟨payload, c.session.compressing⟩, .received bs] := by
  refine .session (.ofAttempt_ok (usable_of_carries carries request) ?_)
  -- the reply is read from the wire as the frame left it
  refine (ends_write_taken hn h.encoded h.taken).bind ?_ ?_
  · rintro _ c₁ ⟨-, wire, goes⟩
    have given := h.given
    have decoded := h.decoded
    rw [← wire] at given
    rw [← goes.session] at decoded
    refine (ends_read_given given decoded).mono ?_
    rintro _ c₂ ⟨rfl, wire₂, goes₂⟩
    rw [goes.session] at goes₂
    rw [wire] at wire₂
    exact ⟨rfl, wire₂.trans h.wire.symm, goes.trans goes₂⟩
  · rintro f c₁ ⟨⟨⟩, -⟩

/-- A request that can be named and that the far end answers has one way to end. -/
theorem ends_send_answered {read : Value → Attempt α} {named : String}
    (free : c.session.outstanding = false) (carries : c.session.Carries)
    (hn : nameOf request = .ok named)
    (h : Network.Answers env c.session.compressing request c.wire payload bs entries w) :
    Ends (send env request read none) c fun r c' =>
      r = answer read entries ∧ c'.wire = w ∧
        c.Goes c' c.session [.sent ⟨payload, c.session.compressing⟩, .received bs] := by
  have begun : (marked c).session.Carries := ⟨carries.isOpen, carries.attached⟩
  refine ends_send_marked (ends_exchange_answered begun hn h) ?_ ?_ ?_
  · intro f hf
    simp [grant, free] at hf
  · rintro - _ c₁ ⟨⟨⟩, wire, goes⟩
    exact ⟨rfl, wire, goes_unmarked (flag_free free) goes⟩
  · rintro - f c₁ ⟨⟨⟩, -⟩

end Session

/-! ### Idle far ends -/

/-- A far end gives one reply to every frame: if it was idle when it took a frame, it is idle again
once a reply was read, however often it was polled in between. -/
def Network.RepliesOnce (env : Environment ω) (idle : ω → Prop) : Prop :=
  ∀ frame w w' bs, idle w → (env.wire.send frame w).result = .ok () →
    Channel.Polled env (env.wire.send frame w).rest w' →
    (env.wire.receive w').result = .ok (some bs) → idle (env.wire.receive w').rest

namespace Client

variable {idle : ω → Prop} {c' : Client ω} {P : Conduct}

/-- A client whose session is open now had the same session before, and its far end is idle if it
was idle then. -/
def StaysOpen (idle : ω → Prop) (c c' : Client ω) : Prop :=
  c'.session.phase = .open → c'.session = c.session ∧ (idle c.wire → idle c'.wire)

instance : IsPreorder (Client ω) (StaysOpen idle) where
  refl _ _ := ⟨rfl, fun h => h⟩
  trans c₁ c₂ c₃ h h' opens := by
    obtain ⟨session', idle'⟩ := h' opens
    rw [session'] at opens
    obtain ⟨session, idle⟩ := h opens
    exact ⟨session'.trans session, fun hi => idle' (idle hi)⟩

/-- No step opens a session, and what leaves it open completes its exchange. -/
theorem staysOpen_step (once : RepliesOnce env idle) (h : Step env P c c') : StaysOpen idle c c' := by
  intro opens
  cases h with
  | aside h wire =>
    rw [wire]
    exact ⟨h.session, fun hi => hi⟩
  | @send _ request _ read scope =>
    have sending := Session.ends_send env request read scope c
    unfold Ends at sending
    generalize (Session.send env request read scope c).1 = r,
      (Session.send env request read scope c).2 = c' at sending opens ⊢
    cases sending with
    | refused => exact ⟨rfl, fun hi => hi⟩
    | failed _ _ _ _ goes =>
      rw [goes.session] at opens
      cases opens
    | answered h =>
      -- frame and reply make up one exchange, so the far end is idle again
      obtain ⟨w, polled, given, wire⟩ := h.given
      refine ⟨h.goes.session, fun hi => ?_⟩
      rw [wire]
      exact once _ _ _ _ hi h.taken polled given
  | close => cases (Session.ends_close env c).2.phase.symm.trans opens

theorem staysOpen_path (once : RepliesOnce env idle) (h : Path env P c c') : StaysOpen idle c c' := by
  induction h with
  | refl => exact refl_of (StaysOpen idle) c
  | tail _ step ih => exact trans_of (StaysOpen idle) ih (staysOpen_step once step)

/-- A login that leaves the session open leaves the far end idle. -/
theorem idle_login (once : RepliesOnce env idle) (scope : Option ScopeId) (hi : idle c.wire)
    (opens : (Session.login env scope c).2.session.phase = .open) :
    idle (Session.login env scope c).2.wire := by
  have login : Ends (Session.login env scope) c (Session.LoggedIn env ⟨fun _ => True, True⟩ c) :=
    Session.ends_login (fun _ _ => trivial) scope c
  unfold Ends at login
  generalize (Session.login env scope c).1 = r, (Session.login env scope c).2 = c' at login opens ⊢
  cases login with
  | done path goes wire =>
    rw [goes.session] at opens
    rw [wire]
    exact (staysOpen_path once path opens).2 hi
  | escaped path => exact (staysOpen_path once path opens).2 hi
  | refused path detached => cases detached.phase.symm.trans opens

end Client

end ExaWire
