/-
ExaWire/Proofs/Session/Retirement.lean

The standing of a client with its channel.

Until its session is closed a client has its channel, and has not closed it.  After
that it has none, and the last thing that happened on the channel is that it was
closed; what came just before may be a frame that said farewell.  All other frames
have whatever property the requests of its conduct give their frames.

A session that is not open any more is *hushed*: nothing that a client does reaches
its channel, except that a broken session may still be closed.
-/
import ExaWire.Proofs.Session.Farewell

namespace ExaWire

open Network Session

variable {ω α : Type} {env : Environment ω} {P : Conduct} {F : Frame → Prop}

/-- A happening on a channel that stays: a frame with a property is written, or a reply is read. -/
def Happening.IsOrdinary (F : Frame → Prop) : Happening → Prop
  | .sent frame => F frame
  | .detached => False
  | _ => True

/-- All requests of a conduct, and the abort of one, have frames with a property. -/
def Conduct.Writes (P : Conduct) (env : Environment ω) (F : Frame → Prop) : Prop :=
  ∀ request, P.sends request ∨ request = Command.abortQuery →
    ∀ compressing payload, encode env.codec compressing request = .ok payload → F ⟨payload, compressing⟩

theorem Happening.forall_frames {hs : List Happening} (h : ∀ x ∈ hs, x.IsOrdinary F) :
    ∀ frame ∈ Happening.frames hs, F frame := by
  intro frame hf
  obtain ⟨x, hx, he⟩ := List.mem_filterMap.1 hf
  have := h x hx
  cases x <;> cases he
  exact this

theorem Happening.closings_eq_zero {hs : List Happening} (h : ∀ x ∈ hs, x.IsOrdinary F) :
    Happening.closings hs = 0 := by
  refine List.countP_eq_zero.2 fun x hx => ?_
  have := h x hx
  cases x <;> simp_all [Happening.IsOrdinary]

/-- What the end of a session may write: nothing, or a frame that says farewell. -/
def Happening.SaysFarewell (codec : Codec) (hs : List Happening) : Prop :=
  hs = [] ∨ ∃ bye : Frame, bye.isFarewell codec = true ∧ hs = [.sent bye]

namespace Client

open Happening (SaysFarewell)

/-- How a client stands with its channel. -/
inductive Standing (env : Environment ω) (F : Frame → Prop) (c : Client ω) : Prop
  | up (alive : c.session.phase ≠ .closed) (attached : c.session.attached = true)
      (link : c.link.isUp = true) (ordinary : ∀ h ∈ c.trace, h.IsOrdinary F)
  | down {past last : List Happening} (closed : c.session.phase = .closed)
      (detached : c.session.attached = false)
      (ordinary : ∀ h ∈ past, h.IsOrdinary F) (farewell : SaysFarewell env.codec last)
      (trace : c.trace = past ++ last ++ [.detached])

/-- A client between two operations: no request is under way, and it stands with its channel as
it should. -/
structure Settled (env : Environment ω) (F : Frame → Prop) (c : Client ω) : Prop where
  free : c.session.outstanding = false
  standing : Standing env F c

variable {c c' : Client ω}

/-- Nothing that a client's standing depends on has changed. -/
theorem Settled.same {s : Session} (h : c.Settled env F) (goes : c.Goes c' s [])
    (phase : s.phase = c.session.phase) (attached : s.attached = c.session.attached)
    (free : s.outstanding = c.session.outstanding) : c'.Settled env F := by
  have session := goes.session
  have trace : c'.trace = c.trace := by rw [goes.trace, List.append_nil]
  obtain ⟨hf, ⟨alive, ha, link, ordinary⟩ | ⟨closed, ha, ordinary, farewell, ht⟩⟩ := h
  · refine ⟨by rw [session, free, hf], .up ?_ ?_ (by rw [goes.link, link]) (by rwa [trace])⟩
    · rwa [session, phase]
    · rw [session, attached, ha]
  · refine ⟨by rw [session, free, hf], .down ?_ ?_ ordinary farewell (by rw [trace, ht])⟩
    · rw [session, phase, closed]
    · rw [session, attached, ha]

/-- An open session of a settled client can carry a request. -/
theorem Settled.carries (h : c.Settled env F) (opens : c.session.phase = .open) :
    c.session.Carries := by
  cases h.standing with
  | up alive attached link ordinary => exact ⟨opens, attached⟩
  | down closed => cases opens.symm.trans closed

theorem Settled.steady (h : c.Settled env F) (hs : c.Steady c') : c'.Settled env F :=
  h.same hs rfl rfl rfl

/-- News of a session that can carry a request, and is not closed by them. -/
theorem Settled.goes {s : Session} {news : List Happening} (h : c.Settled env F)
    (carries : c.session.Carries) (goes : c.Goes c' s news) (attached : s.attached = true)
    (free : s.outstanding = c.session.outstanding) (alive : s.phase ≠ .closed)
    (ordinary : ∀ h ∈ news, h.IsOrdinary F) : c'.Settled env F := by
  have session := goes.session
  obtain ⟨hf, ⟨-, -, link, past⟩ | ⟨closed⟩⟩ := h
  · refine ⟨by rw [session, free, hf], .up ?_ ?_ ?_ ?_⟩
    · rwa [session]
    · rwa [session]
    · rw [goes.link, link]
    · rw [goes.trace]
      exact List.forall_mem_append.2 ⟨past, ordinary⟩
  · cases carries.isOpen.symm.trans closed

theorem ordinary_cutShort {request : Value} (hr : P.sends request) (writes : P.Writes env F)
    {payload : Bytes} {compressing : Bool} (hp : encode env.codec compressing request = .ok payload)
    {news : List Happening} (h : CutShort env ⟨payload, compressing⟩ news) :
    ∀ x ∈ news, x.IsOrdinary F := by
  have own : F ⟨payload, compressing⟩ := writes request (.inl hr) _ _ hp
  cases h with
  | unsent => simp
  | written h =>
    refine List.forall_mem_cons.2 ⟨own, ?_⟩
    cases h with
    | lost => simp
    | garbled bs => simp [Happening.IsOrdinary]
    | aborted ha => simpa [Happening.IsOrdinary] using writes _ (.inr rfl) _ _ ha

theorem Settled.send (h : c.Settled env F) (writes : P.Writes env F) {request : Value}
    (hr : P.sends request) {read : Value → Attempt α} {r : Attempt α}
    (hs : Sending env request read c r c') : c'.Settled env F := by
  cases hs with
  | refused => exact h
  | failed hf carries hp hn goes =>
    exact h.goes carries goes carries.attached rfl (by simp [broken]) (ordinary_cutShort hr writes hp hn)
  | answered a =>
    have alive : c.session.phase ≠ .closed := by simp [a.carries.isOpen]
    refine h.goes a.carries a.goes a.carries.attached rfl alive ?_
    have own := writes request (.inl hr) _ _ a.encoded
    simpa [Happening.IsOrdinary] using own

/-- A channel that is up is closed when it is given up. -/
theorem shut_of_up (attached : c.session.attached = true) (up : c.link.isUp = true)
    (h : Detached env c c') :
    c'.trace = c.trace ++ [.detached] ∧ c'.wire = (env.wire.close c.wire).rest := by
  cases h with
  | idle down => simp [down attached] at up
  | shut _ _ session trace wire => exact ⟨trace, wire⟩

/-- The end of a session that is not closed: it may say farewell if it is open, and it closes
the channel. -/
theorem Settled.closing (h : c.Settled env F) (alive : c.session.phase ≠ .closed)
    (hc : Closing env c c') :
    c'.session.outstanding = false ∧ c'.session.attached = false ∧ ∃ last, SaysFarewell env.codec last ∧
      c'.trace = c.trace ++ last ++ [.detached] ∧
      (c.session.phase ≠ .open → last = [] ∧ c'.wire = (env.wire.close c.wire).rest) := by
  obtain ⟨free, ⟨-, attached, up, -⟩ | ⟨closed⟩⟩ := h
  · cases hc with
    | already closed => exact absurd closed alive
    | done _ farewell detached =>
      -- whatever the farewell came to, the channel is still up when it is given up
      rw [detached.session]
      cases farewell with
      | said carries hp goes =>
        obtain ⟨trace, -⟩ := shut_of_up (by rw [goes.session, attached]) (by rw [goes.link, up]) detached
        refine ⟨by rw [goes.session]; exact free, rfl, _, .inr ⟨_, ?_, rfl⟩, by rw [trace, goes.trace], ?_⟩
        · simp [Frame.isFarewell, hp]
        · exact fun h => absurd carries.isOpen h
      | failed carries goes =>
        obtain ⟨trace, -⟩ := shut_of_up (by rw [goes.session]; exact attached) (by rw [goes.link, up]) detached
        refine ⟨by rw [goes.session]; exact free, rfl, _, .inl rfl, by rw [trace, goes.trace], ?_⟩
        exact fun h => absurd carries.isOpen h
      | unsaid =>
        obtain ⟨trace, wire⟩ := shut_of_up attached up detached
        exact ⟨free, rfl, [], .inl rfl, by rw [trace, List.append_nil], fun _ => ⟨rfl, wire⟩⟩
  · exact absurd closed alive

theorem Settled.close (h : c.Settled env F) (hc : Closing env c c') : c'.Settled env F := by
  by_cases alive : c.session.phase = .closed
  · cases hc with
    | already => exact h
    | done other => exact absurd alive other
  · obtain ⟨free, detached, last, farewell, trace, -⟩ := h.closing alive hc
    obtain ⟨-, ⟨-, -, -, ordinary⟩ | ⟨closed⟩⟩ := h
    · exact ⟨free, .down hc.phase detached ordinary farewell trace⟩
    · exact absurd closed alive

/-- A client that gives up its channel without a farewell. -/
theorem Settled.detached (h : c.Settled env F) (hd : Detached env c c') : c'.Settled env F := by
  have free : c'.session.outstanding = false := by rw [hd.session]; exact h.free
  have attached : c'.session.attached = false := by rw [hd.session]; rfl
  have phase := hd.phase
  obtain ⟨-, ⟨-, ha, up, ordinary⟩ | ⟨closed, ha, ordinary, farewell, trace⟩⟩ := h
  · obtain ⟨trace, -⟩ := shut_of_up ha up hd
    exact ⟨free, .down phase attached ordinary (.inl rfl) (by rw [trace, List.append_nil])⟩
  · cases hd with
    | idle _ goes =>
      exact ⟨free, .down phase attached ordinary farewell (by rw [goes.trace, trace, List.append_nil])⟩
    | shut attached => simp [ha] at attached

/-- Every step of a client whose requests write frames with a property keeps it settled. -/
theorem Settled.step (h : c.Settled env F) (writes : P.Writes env F) (hs : Step env P c c') :
    c'.Settled env F := by
  cases hs with
  | aside hs wire => exact h.steady hs
  | send hr read scope => exact h.send writes hr (ends_send env _ read scope c)
  | close => exact h.close (ends_close env c).2

theorem Settled.path (h : c.Settled env F) (writes : P.Writes env F) (path : Path env P c c') :
    c'.Settled env F := by
  induction path with
  | refl => exact h
  | tail _ step ih => exact ih.step writes step

/-- A login settles a client that has not used its channel. -/
theorem settled_login (writes : P.Writes env F)
    (hP : ∀ request, Login.IsRequest request → P.sends request) (scope : Option ScopeId)
    (free : c.session.outstanding = false) (attached : c.session.attached = true)
    (up : c.link.isUp = true) (unused : c.trace = []) :
    (Session.login env scope c).2.Settled env F := by
  -- the path of a login begins with the session opened
  let c₀ := { c with session := c.session.opened }
  have opened : c₀.Settled env F := by
    refine ⟨free, .up (by simp [c₀, Session.opened]) attached up ?_⟩
    show ∀ h ∈ c.trace, h.IsOrdinary F
    simp [unused]
  have login : Ends (Session.login env scope) c (LoggedIn env P c) := ends_login hP scope c
  unfold Ends at login
  generalize (Session.login env scope c).1 = r, (Session.login env scope c).2 = c' at login ⊢
  cases login with
  | done path goes _ => exact (opened.path writes path).same goes rfl rfl rfl
  | escaped path => exact opened.path writes path
  | refused path detached => exact (opened.path writes path).detached detached

/-- A client closes its channel once, when its session is closed. -/
theorem Settled.closings (h : c.Settled env F) :
    c.closings = if c.session.phase = .closed then 1 else 0 := by
  obtain ⟨-, ⟨alive, -, -, ordinary⟩ | ⟨closed, -, ordinary, farewell, trace⟩⟩ := h
  · rw [if_neg alive, Client.closings, Happening.closings_eq_zero ordinary]
  · have past := Happening.closings_eq_zero ordinary
    rw [if_pos closed, Client.closings, trace]
    unfold Happening.closings at past ⊢
    rw [List.countP_append, List.countP_append, past]
    obtain rfl | ⟨bye, -, rfl⟩ := farewell
    · rfl
    · rfl

/-- The frames of a client: all but the last have the property, and the last may say farewell
once the session is closed. -/
theorem Settled.frames (h : c.Settled env F) :
    ∃ earlier last, c.frames = earlier ++ last ∧ (∀ frame ∈ earlier, F frame) ∧
      (last = [] ∨ ∃ bye : Frame, bye.isFarewell env.codec = true ∧ last = [bye] ∧
        c.session.phase = .closed) := by
  cases h.standing with
  | up _ _ _ ordinary =>
    exact ⟨c.frames, [], (List.append_nil _).symm, Happening.forall_frames ordinary, .inl rfl⟩
  | @down past last closed _ ordinary farewell trace =>
    refine ⟨Happening.frames past, Happening.frames last, ?_, Happening.forall_frames ordinary, ?_⟩
    · rw [Client.frames, trace, Happening.frames_append, Happening.frames_append]
      exact List.append_nil _
    · obtain rfl | ⟨bye, hb, rfl⟩ := farewell
      · exact .inl rfl
      · exact .inr ⟨bye, hb, rfl, closed⟩

/-! ### Sessions that are not open -/

/-- A request on a session that is not open is refused, and nothing happens. -/
theorem send_of_not_open (h : c.session.phase ≠ .open) (env : Environment ω) (request : Value)
    (read : Value → Attempt α) (scope : Option ScopeId) :
    (Session.send env request read scope c).2 = c := by
  have ends := ends_send env request read scope c
  unfold Ends at ends
  generalize Session.send env request read scope c = turn at ends ⊢
  obtain ⟨r, c'⟩ := turn
  cases ends with
  | refused => rfl
  | failed hf carries => exact absurd carries.isOpen h
  | answered a => exact absurd a.carries.isOpen h

/-- A session that cannot carry a request tells so. -/
theorem fails_of_usable {f : Failure} {request : Value} (free : c.session.outstanding = false)
    (h : c.session.usable request = .error f) (env : Environment ω) (read : Value → Attempt α)
    (scope : Option ScopeId) : (Session.send env request read scope c).1 = .error f := by
  have ends : Ends (Session.send env request read scope) c fun r _ => r = .error f := by
    refine Session.ends_send_marked (R := fun r _ => r = .error f) ?_ ?_ ?_ ?_
    · -- the mark that is set meanwhile has no part in whether a session is usable
      refine .session (.ofAttempt (fun u hu => ?_) fun g hg => ?_)
      · cases h.symm.trans hu
      · exact congrArg Except.error (Except.error.inj (hg.symm.trans h))
    · intro g hg
      simp [Session.grant, free] at hg
    · rintro - entries c₁ ⟨⟩
    · rintro - g c₁ ⟨⟩
      rfl
  exact ends

/-- What can become of a client whose session is not open: nothing concerns its session or its
channel, or its broken session is closed once. -/
inductive Hushed (env : Environment ω) (P : Conduct) (c : Client ω) : Client ω → Prop
  | still {c' : Client ω} (h : c.Steady c') (wire : c'.wire = c.wire) : Hushed env P c c'
  | closed {c' : Client ω} (closes : P.closes) (broken : c.session.phase = .broken)
      (phase : c'.session.phase = .closed) (trace : c'.trace = c.trace ++ [.detached])
      (wire : c'.wire = (env.wire.close c.wire).rest) : Hushed env P c c'

theorem Hushed.step {c₁ c₂ : Client ω} (h : c.session.phase ≠ .open) (settled : c.Settled env F)
    (hushed : Hushed env P c c₁) (step : Step env P c₁ c₂) : Hushed env P c c₂ := by
  have notOpen : c₁.session.phase ≠ .open := by
    cases hushed with
    | still hs => rwa [hs.session]
    | closed _ _ phase => simp [phase]
  cases step with
  | send hr read scope => rwa [send_of_not_open notOpen]
  | aside hs wire =>
    cases hushed with
    | still hs' wire' => exact .still (hs'.steady hs) (wire.trans wire')
    | closed closes broken phase trace wire' =>
      refine .closed closes broken (by rw [hs.session, phase]) ?_ (wire.trans wire')
      rw [hs.trace, trace, List.append_nil]
  | close closes =>
    have closing := (ends_close env c₁).2
    generalize (Session.close env c₁).2 = c₂ at closing ⊢
    by_cases alive : c₁.session.phase = .closed
    · cases closing with
      | already => exact hushed
      | done other => exact absurd alive other
    · cases hushed with
      | closed _ _ phase => exact absurd phase alive
      | still hs wire =>
        -- only now is the session closed, which was broken from the beginning
        obtain ⟨-, -, last, -, trace, quiet⟩ := (settled.steady hs).closing alive closing
        obtain ⟨rfl, closed⟩ := quiet notOpen
        have broken : c.session.phase = .broken := by
          rw [hs.session] at alive
          cases e : c.session.phase with
          | closed => exact absurd e alive
          | «open» => exact absurd e h
          | broken => rfl
        refine .closed closes broken closing.phase ?_ (by rw [closed, wire])
        rw [trace, hs.trace, List.append_nil, List.append_nil]

/-- Whatever a client does whose session is not open, it is hushed. -/
theorem hushed_path (h : c.session.phase ≠ .open) (settled : c.Settled env F)
    (path : Path env P c c') : Hushed env P c c' := by
  induction path with
  | refl => exact .still (.refl c) rfl
  | tail _ step ih => exact ih.step h settled step

/-! ### Who says farewell -/

/-- A stretch of a run on which farewell is said by closing an open session, or not at all. -/
inductive Discreet (env : Environment ω) (c : Client ω) : Client ω → Prop
  | mute {c' : Client ω} {news : List Frame} (frames : c'.frames = c.frames ++ news)
      (quiet : ∀ frame ∈ news, frame.isFarewell env.codec = false) : Discreet env c c'
  | close (isOpen : c.session.phase = .open) : Discreet env c (Session.close env c).2

theorem discreet_of_goes {s : Session} {news : List Happening} (h : c.Goes c' s news)
    (ordinary : ∀ x ∈ news, x.IsOrdinary fun frame => frame.isFarewell env.codec = false) :
    Discreet env c c' := .mute h.frames (Happening.forall_frames ordinary)

/-- The end of a session that is not open writes nothing. -/
theorem frames_close (h : c.session.phase ≠ .open) (hc : Closing env c c') : c'.frames = c.frames := by
  have detached {c₁ : Client ω} (hd : Detached env c₁ c') : c'.frames = c₁.frames := by
    cases hd with
    | idle _ goes => rw [goes.frames, Happening.frames_nil, List.append_nil]
    | shut _ _ _ trace =>
      rw [Client.frames, trace, Happening.frames_append]
      exact List.append_nil _
  cases hc with
  | already => rfl
  | done _ farewell hd =>
    cases farewell with
    | said carries => exact absurd carries.isOpen h
    | failed carries => exact absurd carries.isOpen h
    | unsaid => exact detached hd

theorem discreet_step (writes : P.Writes env fun frame => frame.isFarewell env.codec = false)
    (step : Step env P c c') : Discreet env c c' := by
  cases step with
  | aside hs => exact discreet_of_goes hs (by simp)
  | close =>
    by_cases h : c.session.phase = .open
    · exact .close h
    · have frames : (Session.close env c).2.frames = c.frames ++ [] := by
        rw [frames_close h (ends_close env c).2, List.append_nil]
      exact .mute frames (by simp)
  | @send α request hr read scope =>
    have sent : Sending env request read c _ _ := ends_send env request read scope c
    generalize (Session.send env request read scope c).1 = r,
      (Session.send env request read scope c).2 = c' at sent ⊢
    cases sent with
    | refused => exact discreet_of_goes (.refl c) (by simp)
    | failed hf carries hp hn goes => exact discreet_of_goes goes (ordinary_cutShort hr writes hp hn)
    | answered a =>
      refine discreet_of_goes a.goes ?_
      have own := writes request (.inl hr) _ _ a.encoded
      simpa [Happening.IsOrdinary] using own

theorem discreet_detached (h : Detached env c c') : Discreet env c c' := by
  cases h with
  | idle _ goes => exact discreet_of_goes goes (by simp)
  | shut _ _ _ trace =>
    have frames : c'.frames = c.frames ++ [] := by
      rw [Client.frames, trace, Happening.frames_append]
      rfl
    exact .mute frames (by simp)

theorem discreet_path (writes : P.Writes env fun frame => frame.isFarewell env.codec = false)
    (path : Path env P c c') : Relation.ReflTransGen (Discreet env) c c' :=
  Relation.ReflTransGen.mono (fun _ _ => discreet_step writes) _ _ path

/-- A login says no farewell. -/
theorem discreet_login (writes : P.Writes env fun frame => frame.isFarewell env.codec = false)
    (hP : ∀ request, Login.IsRequest request → P.sends request) (scope : Option ScopeId)
    (c : Client ω) : Relation.ReflTransGen (Discreet env) c (Session.login env scope c).2 := by
  let c₀ := { c with session := c.session.opened }
  have opening : Discreet env c c₀ := .mute (List.append_nil _).symm (by simp)
  have login : Ends (Session.login env scope) c (LoggedIn env P c) := ends_login hP scope c
  unfold Ends at login
  generalize (Session.login env scope c).1 = r, (Session.login env scope c).2 = c' at login ⊢
  cases login with
  | done path goes _ =>
    exact .head opening ((discreet_path writes path).tail (discreet_of_goes goes (by simp)))
  | escaped path => exact .head opening (discreet_path writes path)
  | refused path detached =>
    exact .head opening ((discreet_path writes path).tail (discreet_detached detached))

end Client

end ExaWire
