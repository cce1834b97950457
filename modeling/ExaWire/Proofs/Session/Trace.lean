/-
ExaWire/Proofs/Session/Trace.lean

What an exchange leaves behind on a channel.

The *trace* of a client is the part of its record that concerns the channel of its
session: frames written, replies read, and the closing of the channel.  Everything
else that a client records (requests refused meanwhile, imports, dialling) is beside
the point here, and so are its notes and scopes.

`Client.Goes c c' s news` says that a client went from `c` to `c'`, that its session
is `s` now, and that `news` was added to its trace.  Polling, time passing and an
upload under way are *steady*: they change neither session nor trace.
-/
import ExaWire.Connect.Channel
import ExaWire.Proofs.Action

namespace ExaWire

open Network

variable {ω α : Type}

/-! ### Traces -/

/-- Whether a happening concerns the channel of the session. -/
def Happening.ofChannel : Happening → Bool
  | .sent _ | .received _ | .detached => true
  | _ => false

/-- The frames written. -/
def Happening.frames (hs : List Happening) : List Frame :=
  hs.filterMap fun | .sent f => some f | _ => none

/-- The replies read. -/
def Happening.replies (hs : List Happening) : List Bytes :=
  hs.filterMap fun | .received bs => some bs | _ => none

@[simp] theorem Happening.frames_nil : Happening.frames [] = [] := rfl

@[simp] theorem Happening.replies_nil : Happening.replies [] = [] := rfl

@[simp] theorem Happening.frames_append (hs more : List Happening) :
    Happening.frames (hs ++ more) = Happening.frames hs ++ Happening.frames more :=
  List.filterMap_append

@[simp] theorem Happening.replies_append (hs more : List Happening) :
    Happening.replies (hs ++ more) = Happening.replies hs ++ Happening.replies more :=
  List.filterMap_append

/-- How often the channel was closed. -/
def Happening.closings (hs : List Happening) : Nat :=
  hs.countP fun | .detached => true | _ => false

namespace Client

/-- What happened on the channel of the session. -/
def trace (c : Client ω) : List Happening := c.happenings.filter Happening.ofChannel

/-- The frames that were written to the channel of the session. -/
def frames (c : Client ω) : List Frame := Happening.frames c.trace

/-- The replies that were read from the channel of the session. -/
def replies (c : Client ω) : List Bytes := Happening.replies c.trace

/-- How often the channel of the session was closed. -/
def closings (c : Client ω) : Nat := Happening.closings c.trace

/-- A client went from `c` to `c'`: what its session is now, and what is new on its channel. -/
structure Goes (c c' : Client ω) (s : Session) (news : List Happening) : Prop where
  session : c'.session = s
  link : c'.link = c.link
  trace : c'.trace = c.trace ++ news

/-- Neither the session nor its channel are concerned. -/
abbrev Steady (c c' : Client ω) : Prop := Goes c c' c.session []

namespace Goes

variable {c₁ c₂ c₃ : Client ω} {s t : Session} {news more : List Happening}

theorem refl (c : Client ω) : Steady c c := ⟨rfl, rfl, by simp⟩

theorem trans (h : Goes c₁ c₂ s news) (h' : Goes c₂ c₃ t more) : Goes c₁ c₃ t (news ++ more) :=
  ⟨h'.session, h'.link.trans h.link, by rw [h'.trace, h.trace, List.append_assoc]⟩

/-- A steady stretch may be put behind. -/
theorem steady (h : Goes c₁ c₂ s news) (h' : Steady c₂ c₃) : Goes c₁ c₃ s news := by
  have := h.trans h'
  rwa [List.append_nil, h.session] at this

/-- A steady stretch may be put in front. -/
theorem afterSteady (h : Steady c₁ c₂) (h' : Goes c₂ c₃ s news) : Goes c₁ c₃ s news := by
  simpa using h.trans h'

theorem frames (h : Goes c₁ c₂ s news) : c₂.frames = c₁.frames ++ Happening.frames news := by
  rw [Client.frames, h.trace, Happening.frames_append]
  rfl

theorem replies (h : Goes c₁ c₂ s news) : c₂.replies = c₁.replies ++ Happening.replies news := by
  rw [Client.replies, h.trace, Happening.replies_append]
  rfl

end Goes

/-! ### What is steady -/

section Steady

variable (c : Client ω)

theorem trace_append {c' : Client ω} {hs : List Happening} (h : c'.happenings = c.happenings ++ hs) :
    c'.trace = c.trace ++ hs.filter Happening.ofChannel := by
  rw [trace, h, List.filter_append, trace]

theorem steady_of_happenings {c' : Client ω} {hs : List Happening} (hs' : c'.session = c.session)
    (hl : c'.link = c.link) (h : c'.happenings = c.happenings ++ hs)
    (hn : hs.filter Happening.ofChannel = []) : Steady c c' :=
  ⟨hs', hl, by rw [c.trace_append h, hn]⟩

theorem steady_annotate (notes : List Note) : Steady c (c.annotate notes) := ⟨rfl, rfl, by simp [trace, annotate]⟩

theorem steady_after (turn : Turn ω α) : Steady c (c.after turn) :=
  c.steady_of_happenings rfl rfl rfl (by simp [Happening.ofChannel])

theorem steady_poll (scope : ScopeId) : Steady c (c.poll scope).2 := ⟨rfl, rfl, by simp [trace, poll]⟩

theorem filter_network (events : List Event) :
    (events.map Happening.network).filter Happening.ofChannel = [] := by
  simp [Happening.ofChannel]

theorem steady_advance (step : Import.Progress → Import.Progress) : Steady c (c.advance step) := by
  unfold advance
  split
  · exact c.steady_of_happenings rfl rfl rfl (filter_network _)
  · exact Goes.refl c

theorem goes_record {hs : List Happening} (h : ∀ x ∈ hs, x.ofChannel = true) :
    Goes c (c.record hs) c.session hs :=
  ⟨rfl, rfl, by rw [c.trace_append rfl, List.filter_eq_self.2 h]⟩

end Steady

end Client

end ExaWire
