/-
ExaWire/Proofs/Session/Tried.lean

A request without a scope is tried once.

On an open session the frame of the request is handed to the wire exactly once.  If
the wire refuses it, that is all; if the wire takes it, one reply is asked for, and no
other frame follows.  Only a request that cannot be written as JSON does not come that
far.
-/
import ExaWire.Proofs.Session.Answered
import ExaWire.Proofs.Session.Reported

namespace ExaWire

open Network

variable {ω α : Type} {env : Environment ω} {c : Client ω}

/-! ### The wire -/

/-- A client went from `c` to `c'` without the wire, and wrote no frame. -/
structure Client.Still (c c' : Client ω) : Prop where
  wire : c'.wire = c.wire
  frames : c'.frames = c.frames

open Client (Still)

instance : IsPreorder (Client ω) Still where
  refl _ := ⟨rfl, rfl⟩
  trans _ _ _ h h' := ⟨h'.wire.trans h.wire, h'.frames.trans h.frames⟩

theorem Client.Steady.frames {c' : Client ω} (h : c.Steady c') : c'.frames = c.frames := by
  rw [Goes.frames h, Happening.frames_nil, List.append_nil]

namespace Channel

theorem wire_send (env : Environment ω) (frame : Frame) (c : Client ω) :
    (send env frame c).2.wire = (env.wire.send frame c.wire).rest := by
  unfold send
  cases e : (env.wire.send frame c.wire).result with
  | ok _ => simp only [e]; rfl
  | error text => simp only [e]; rfl

theorem wire_receive (env : Environment ω) (c : Client ω) :
    (receive env c).2.wire = (env.wire.receive c.wire).rest := by
  unfold receive
  rcases e : (env.wire.receive c.wire).result with text | - | bs
  · simp only [e]; rfl
  · simp only [e]; rfl
  · simp only [e]; rfl

/-- What a frame that is handed to the wire comes to. -/
inductive Handed (env : Environment ω) (frame : Frame) (c : Client ω) : Attempt Unit → Client ω → Prop
  | refused {text f c'} (why : (env.wire.send frame c.wire).result = .error text)
      (wire : c'.wire = (env.wire.send frame c.wire).rest) (frames : c'.frames = c.frames) :
    Handed env frame c (.error f) c'
  | taken {c'} (taken : (env.wire.send frame c.wire).result = .ok ())
      (wire : c'.wire = (env.wire.send frame c.wire).rest) (frames : c'.frames = c.frames ++ [frame]) :
    Handed env frame c (.ok ()) c'

theorem ends_send_handed (env : Environment ω) (frame : Frame) (c : Client ω) :
    Ends (send env frame) c (Handed env frame c) := by
  have ends := ends_send env frame c
  have wire := wire_send env frame c
  unfold Ends at ends ⊢
  generalize (send env frame c).1 = r, (send env frame c).2 = c' at ends wire ⊢
  cases ends with
  | refused why h => exact .refused why wire h.frames
  | taken taken _ h => exact .taken taken wire (Client.Goes.frames h)

theorem ends_receive_once (env : Environment ω) (c : Client ω) :
    Ends (receive env) c fun _ c' =>
      c'.wire = (env.wire.receive c.wire).rest ∧ c'.frames = c.frames := by
  refine ⟨wire_receive env c, ?_⟩
  have ends := ends_receive env c
  unfold Ends at ends
  generalize (receive env c).1 = r, (receive env c).2 = c' at ends ⊢
  cases ends with
  | failed _ h => exact h.frames
  | given _ _ h => exact (Client.Goes.frames h).trans (List.append_nil _)

end Channel

namespace Session

open ExaWire.Action

theorem still_throw_breakFor (what why : String) :
    Leads Still (do throw (← breakFor what why) : Action ω α) := by
  intro c
  have broken := ends_throw_breakFor (α := α) what why c
  exact ⟨rfl, broken.2.frames.trans (List.append_nil _)⟩

theorem still_orBreak (r : Attempt α) : Leads Still (orBreak r : Action ω α) := by
  cases r with
  | ok a => exact .pure a
  | error f => exact still_throw_breakFor "network failure" f.message

/-- The reading of a reply asks the wire once, and writes nothing. -/
theorem ends_read_once (env : Environment ω) (c : Client ω) :
    Ends (read env) c fun _ c' =>
      c'.wire = (env.wire.receive c.wire).rest ∧ c'.frames = c.frames := by
  refine .attempt (Channel.ends_receive_once env c) ?_
  rintro r c₁ ⟨wire, frames⟩
  refine Ends.mono (Leads.bind (still_orBreak r) (fun payload => ?_) c₁)
    fun _ c₂ h => ⟨h.wire.trans wire, h.frames.trans frames⟩
  refine .bind (fun _ => refl_of Still _) fun s => ?_
  cases decode env.codec s.compressing payload with
  | ok entries => exact .pure entries
  | error u => exact still_throw_breakFor u.what u.why

/-! ### The request -/

/-- What one try to have a request carried out comes to. -/
inductive Tried (env : Environment ω) (request : Value) (c : Client ω) : Client ω → Prop
  | unwritable {f c'} (hf : encode env.codec c.session.compressing request = .error f)
      (still : c.Still c') : Tried env request c c'
  | refused {payload text c'} (hp : encode env.codec c.session.compressing request = .ok payload)
      (why : (env.wire.send ⟨payload, c.session.compressing⟩ c.wire).result = .error text)
      (wire : c'.wire = (env.wire.send ⟨payload, c.session.compressing⟩ c.wire).rest)
      (frames : c'.frames = c.frames) : Tried env request c c'
  | taken {payload c'} (hp : encode env.codec c.session.compressing request = .ok payload)
      (taken : (env.wire.send ⟨payload, c.session.compressing⟩ c.wire).result = .ok ())
      (wire : c'.wire =
        (env.wire.receive (env.wire.send ⟨payload, c.session.compressing⟩ c.wire).rest).rest)
      (frames : c'.frames = c.frames ++ [⟨payload, c.session.compressing⟩]) : Tried env request c c'

theorem Tried.still {request : Value} {c' c'' : Client ω} (h : Tried env request c c')
    (still : c'.Still c'') : Tried env request c c'' := by
  cases h with
  | unwritable hf still' => exact .unwritable hf (trans_of Still still' still)
  | refused hp why wire frames => exact .refused hp why (still.wire.trans wire) (still.frames.trans frames)
  | taken hp taken wire frames => exact .taken hp taken (still.wire.trans wire) (still.frames.trans frames)

theorem ends_write_handed {request : Value} {payload : Bytes} {named : String}
    (hn : nameOf request = .ok named)
    (hp : encode env.codec c.session.compressing request = .ok payload) :
    Ends (write env request) c (Channel.Handed env ⟨payload, c.session.compressing⟩ c) := by
  refine .session (.ofAttempt_ok hp (.ofAttempt_ok hn (.note ?_)))
  let c₁ := c.annotate [⟨.debug, "-> " ++ named⟩]
  have frames₁ : c₁.frames = c.frames := (c.steady_annotate _).frames
  refine .attempt (Channel.ends_send_handed env _ c₁) ?_
  rintro r c₂ (⟨why, wire, frames⟩ | ⟨taken, wire, frames⟩)
  · refine (Ends.and (ends_throw_breakFor ..) (still_throw_breakFor _ _ c₂)).mono ?_
    rintro r c₃ ⟨⟨⟨text, rfl⟩, -⟩, still⟩
    exact .refused why (still.wire.trans wire) (still.frames.trans (frames.trans frames₁))
  · exact .pure (.taken taken wire (by rw [frames, frames₁]))

theorem ends_exchange_tried (carries : c.session.Carries) (fields : List (Value × Value)) :
    Ends (exchange env (.object fields) none) c fun _ c' => Tried env (.object fields) c c' := by
  refine .session (.ofAttempt_ok (usable_of_carries carries _) ?_)
  cases hp : encode env.codec c.session.compressing (.object fields) with
  | error f =>
    have unwritten : Ends (write env (.object fields)) c fun r c₁ => (∃ f, r = .error f) ∧ c₁ = c :=
      .session (.ofAttempt (fun payload hp' => nomatch hp.symm.trans hp') fun f _ => ⟨⟨f, rfl⟩, rfl⟩)
    refine unwritten.bind ?_ ?_
    · rintro _ c₁ ⟨⟨_, ⟨⟩⟩, -⟩
    · rintro g _ ⟨-, rfl⟩
      exact .unwritable hp (refl_of Still _)
  | ok payload =>
    refine (ends_write_handed rfl hp).bind ?_ ?_
    · intro _ c₁ handed
      obtain _ | ⟨taken, wire, frames⟩ := handed
      refine (ends_read_once env c₁).mono ?_
      rintro r c₂ ⟨wire₂, frames₂⟩
      rw [wire] at wire₂
      exact .taken hp taken wire₂ (frames₂.trans frames)
    · intro f c₁ handed
      obtain ⟨why, wire, frames⟩ | _ := handed
      exact .refused hp why wire frames

/-- On an open session without a request under way a request is tried once. -/
theorem ends_send_tried (free : c.session.outstanding = false) (carries : c.session.Carries)
    (fields : List (Value × Value)) (read : Value → Attempt α) :
    Ends (send env (.object fields) read none) c fun _ c' => Tried env (.object fields) c c' := by
  have begun : (marked c).session.Carries := ⟨carries.isOpen, carries.attached⟩
  -- neither the mark nor its release concern the wire
  have still (c' : Client ω) : c'.Still (unmarked c') := ⟨rfl, rfl⟩
  have tried {c' : Client ω} (h : Tried env (.object fields) (marked c) c') :
      Tried env (.object fields) c (unmarked c') := by
    cases h.still (still c') with
    | unwritable hf still => exact .unwritable hf ⟨still.wire, still.frames⟩
    | refused hp why wire frames => exact .refused hp why wire frames
    | taken hp taken wire frames => exact .taken hp taken wire frames
  refine ends_send_marked (ends_exchange_tried begun fields) ?_ ?_ ?_
  · intro f hf
    simp [grant, free] at hf
  · exact fun _ _ _ h => tried h
  · exact fun _ _ _ h => tried h

theorem Tried.frames {request : Value} {c' : Client ω} (h : Tried env request c c') :
    c'.frames = c.frames ∨ ∃ payload, encode env.codec c.session.compressing request = .ok payload ∧
      c'.frames = c.frames ++ [⟨payload, c.session.compressing⟩] := by
  cases h with
  | unwritable _ still => exact .inl still.frames
  | refused _ _ _ frames => exact .inl frames
  | taken hp _ _ frames => exact .inr ⟨_, hp, frames⟩

/-- Any request without a scope is refused, or tried once. -/
theorem ends_send_once (fields : List (Value × Value)) (read : Value → Attempt α) (c : Client ω) :
    Ends (send env (.object fields) read none) c fun r c' =>
      (∃ f, r = .error f) ∧ c' = c ∨ Tried env (.object fields) c c' := by
  have sends : Ends (send env (.object fields) read none) c (Told env (.object fields) read c) :=
    ends_send_told fields read none c
  have tried (free : c.session.outstanding = false) (carries : c.session.Carries) :
      Ends (send env (.object fields) read none) c fun _ c' => Tried env (.object fields) c c' :=
    ends_send_tried free carries fields read
  unfold Ends at sends tried ⊢
  generalize (send env (.object fields) read none c).1 = r,
    (send env (.object fields) read none c).2 = c' at sends tried ⊢
  cases sends with
  | refused => exact .inl ⟨⟨_, rfl⟩, rfl⟩
  | failed _ free carries => exact .inr (tried free carries)
  | answered free a => exact .inr (tried free a.carries)

end Session

end ExaWire
