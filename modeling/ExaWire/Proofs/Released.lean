/-
ExaWire/Proofs/Released.lean

What is still asked for a handle that is released.

The server releases the handle of a prepared statement or of a result set when it is asked
to, and says so.  From then on the object that asked is closed: it is never closed again.
But nothing else looks at whether it is.  A statement can still be executed, and a cursor
still fetches a page when its next row is one that it has not received.  These requests, and
the abort of an execution, are all that is ever asked on behalf of a closed object
(`Handle.Asks`), and a cursor that has received all its rows asks for nothing.
-/
import ExaWire.Proofs.Cursor.Placed
import ExaWire.Proofs.Session.Accounted
import ExaWire.Proofs.Session.Outcome
import ExaWire.Proofs.Session.Retirement
import ExaWire.Proofs.Statement.Once

namespace ExaWire

open Network Session

variable {ω o α β : Type} {env : Environment ω} {c c' : Client ω} {F : Frame → Prop}

/-! ### Handles -/

/-- What the server holds for an object of the caller. -/
inductive Handle
  | statement (n : Int)
  | resultSet (n : Int)

/-- The request that releases a handle. -/
def Handle.release : Handle → Value
  | .statement n => Command.closePrepared (.int n)
  | .resultSet n => Command.closeResultSet [.int n]

/-- The requests that are made on behalf of a closed object. -/
inductive Handle.Asks : Handle → Value → Prop
  | execution {n request} (h : Prepared.IsExecution n request) : Asks (.statement n) request
  | abort (n : Int) : Asks (.statement n) Command.abortQuery
  | page (n : Int) (position bytes : Value) : Asks (.resultSet n) (Command.fetch (.int n) position bytes)

/-- A frame carries one of these requests. -/
def Network.Frame.Carries (codec : Codec) (asks : Value → Prop) (frame : Frame) : Prop :=
  ∃ request, asks request ∧ encode codec frame.binary request = .ok frame.payload

/-! ### Frames -/

/-- A client wrote frames with a property, and no others. -/
def Client.Writes (F : Frame → Prop) (c c' : Client ω) : Prop :=
  ∃ news, c'.frames = c.frames ++ news ∧ ∀ frame ∈ news, F frame

open Client (Writes)

instance : IsPreorder (Client ω) (Writes F) where
  refl c := ⟨[], (List.append_nil _).symm, by simp⟩
  trans _ _ _ h h' := by
    obtain ⟨news, frames, all⟩ := h
    obtain ⟨more, frames', all'⟩ := h'
    refine ⟨news ++ more, ?_, List.forall_mem_append.2 ⟨all, all'⟩⟩
    rw [frames', frames, List.append_assoc]

theorem Client.Writes.of_frames (h : c'.frames = c.frames) : c.Writes F c' :=
  ⟨[], h.trans (List.append_nil _).symm, by simp⟩

/-- The execution of a statement writes its own frame at most, and the abort of it. -/
theorem Prepared.Executes.writes {n : Int} {r : Attempt QueryReply} (h : Executes env n c r c') :
    c.Writes (Frame.Carries env.codec (Handle.statement n).Asks) c' := by
  let P : Conduct := ⟨IsExecution n, False⟩
  have writes : P.Writes env (Frame.Carries env.codec (Handle.statement n).Asks) := by
    rintro request (own | rfl) compressing payload encoded
    · exact ⟨request, .execution own, encoded⟩
    · exact ⟨_, .abort n, encoded⟩
  cases h with
  | unsent => exact refl_of (Writes _) c
  | failed own hp hn goes =>
    have ordinary := Client.ordinary_cutShort (P := P) own writes hp hn
    exact ⟨_, goes.frames, Happening.forall_frames ordinary⟩
  | answered own hp goes =>
    refine ⟨_, goes.frames, ?_⟩
    rintro frame (_ | ⟨_, ⟨⟩⟩)
    exact ⟨_, .execution own, hp⟩

/-! ### Release -/

/-- A request was sent and replied to, and nothing else happened on the channel; and the reply says
that it was carried out. -/
def Client.Acknowledged (env : Environment ω) (request : Value) (c c' : Client ω) : Prop :=
  ∃ payload bs entries data, encode env.codec c.session.compressing request = .ok payload ∧
    c'.trace = c.trace ++ [.sent ⟨payload, c.session.compressing⟩, .received bs] ∧
    IsReply env.codec c.session.compressing bs entries ∧ Session.data entries = .ok data

theorem Client.not_acknowledged (request : Value) (c : Client ω) : ¬ c.Acknowledged env request c := by
  rintro ⟨payload, bs, entries, data, -, trace, -⟩
  simp at trace

/-- A request whose reply is of no interest succeeds exactly if it is acknowledged. -/
theorem Session.ends_send_acknowledged (fields : List (Value × Value)) (c : Client ω) :
    Ends (send env (.object fields) noData none) c fun r c' =>
      r = .ok () ↔ c.Acknowledged env (.object fields) c' := by
  have told : Ends (send env (.object fields) noData none) c (Told env (.object fields) noData c) :=
    ends_send_told fields noData none c
  have outcome (carries : c.session.Carries) (free : c.session.outstanding = false) :
      Ends (send env (.object fields) noData none) c fun r c' =>
        ∃ way, Outcome env fields noData none c way r c' := ends_send_outcome carries free
  unfold Ends at told outcome ⊢
  generalize (send env (.object fields) noData none c).1 = r,
    (send env (.object fields) noData none c).2 = c' at told outcome ⊢
  constructor
  · rintro rfl
    obtain _ | _ | ⟨-, a, given⟩ := told
    obtain ⟨v, carriedOut, -⟩ := exists_data_of_answer given
    exact ⟨_, _, _, v, a.encoded, a.goes.trace, decode_eq_ok.1 a.decoded, carriedOut⟩
  · rintro ⟨payload, bs, entries, v, -, trace, readable, carriedOut⟩
    obtain ⟨carries, free⟩ : c.session.Carries ∧ c.session.outstanding = false := by
      cases told with
      | refused => simp at trace
      | failed _ free carries => exact ⟨carries, free⟩
      | answered free a => exact ⟨a.carries, free⟩
    -- of all that may happen to the request only an answer leaves this very trace
    obtain ⟨way, outcome⟩ := outcome carries free
    cases outcome with
    | unwritable => simp at trace
    | unsent _ _ _ goes => simp [goes.trace] at trace
    | cancelled _ under => cases under
    | notAborted _ under => cases under
    | unpolled _ under => cases under
    | lost _ _ _ _ goes => simp [goes.trace] at trace
    | garbled _ _ _ unreadable _ goes =>
      simp only [goes.trace, List.append_cancel_left_eq, List.cons.injEq, Happening.received.injEq,
        and_true] at trace
      obtain ⟨-, rfl⟩ := trace
      exact absurd readable (unreadable entries)
    | answered _ _ _ readable' _ goes =>
      simp only [goes.trace, List.append_cancel_left_eq, List.cons.injEq, Happening.received.injEq,
        and_true] at trace
      obtain ⟨-, rfl⟩ := trace
      obtain rfl := Except.ok.inj ((decode_eq_ok.2 readable').symm.trans (decode_eq_ok.2 readable))
      exact answer_of_data carriedOut

theorem Handle.ends_release (h : Handle) (c : Client ω) :
    Ends (send env h.release noData none) c fun r c' => r = .ok () ↔ c.Acknowledged env h.release c' := by
  cases h with
  | statement n => exact ends_send_acknowledged _ c
  | resultSet n => exact ends_send_acknowledged _ c

/-- A statement that is asked to be closed keeps its handle, and is closed if that is
acknowledged. -/
theorem Prepared.ends_close_acknowledged (p : Prepared) (c : Client ω) :
    Ends (close env) (p, c) fun r t => t.1.handle = p.handle ∧
      (c.Acknowledged env (Handle.statement p.handle).release t.2 → t.1.isClosed = true) ∧
      (r = .ok () → p.isClosed = false → c.Acknowledged env (Handle.statement p.handle).release t.2) := by
  refine .object (.ite (fun closed => .pure ⟨rfl, fun _ => closed, ?_⟩) fun _ => ?_)
  · exact fun _ isOpen => absurd closed (by simp [isOpen])
  have unasked : ¬ c.Acknowledged env (Handle.statement p.handle).release c := c.not_acknowledged _
  refine .actSession (.heldOfAttempt (fun _ _ => ?_) fun _ _ => ⟨rfl, fun h => absurd h unasked, nofun⟩)
  refine .act ((Handle.statement p.handle).ends_release c) ?_ ?_
  · intro _ c' told
    exact ⟨rfl, fun _ => rfl, fun _ _ => told.1 rfl⟩
  · intro f c' told
    exact ⟨rfl, fun acknowledged => (nomatch told.2 acknowledged), nofun⟩

/-- A cursor that is closed keeps its handle, and is closed whatever comes of it. -/
theorem Cursor.ends_close_acknowledged (x : Cursor) (c : Client ω) :
    Ends (close env) (x, c) fun r t => t.1.handle = x.handle ∧ t.1.isClosed = true ∧
      (r = .ok () → x.isClosed = false → x.handle ≠ 0 →
        c.Acknowledged env (Handle.resultSet x.handle).release t.2) := by
  refine .object (.ite (fun closed => .pure ⟨rfl, closed, ?_⟩) fun _ => .change ?_)
  · exact fun _ isOpen => absurd closed (by simp [isOpen])
  refine .ite (fun none => .pure ⟨rfl, rfl, fun _ _ some => absurd none some⟩) fun _ => ?_
  refine .actSession (.heldOfAttempt (fun _ _ => ?_) fun _ _ => ⟨rfl, rfl, nofun⟩)
  have told : Ends (send env (Handle.resultSet x.handle).release noData none) c fun r c' =>
      r = .ok () ↔ c.Acknowledged env (Handle.resultSet x.handle).release c' := Handle.ends_release _ c
  exact ⟨rfl, rfl, fun ok _ _ => told.1 ok⟩

/-! ### After the release -/

/-- A closed statement is not closed again. -/
theorem Prepared.close_of_isClosed {p : Prepared} (closed : p.isClosed = true) (c : Client ω) :
    close env (p, c) = (.ok (), p, c) := by
  show (if p.isClosed then _ else _ : Held Prepared ω Unit) (p, c) = _
  rw [if_pos closed]
  rfl

/-- A closed cursor is not closed again. -/
theorem Cursor.close_of_isClosed {x : Cursor} (closed : x.isClosed = true) (c : Client ω) :
    close env (x, c) = (.ok (), x, c) := by
  show (if x.isClosed then _ else _ : Held Cursor ω Unit) (x, c) = _
  rw [if_pos closed]
  rfl

theorem Prepared.ends_query_writes (env : Environment ω) (values : Value) (scope : Option ScopeId)
    (p : Prepared) (c : Client ω) :
    Ends (query env values scope) (p, c) fun _ t => t.1 = p ∧
      c.Writes (Frame.Carries env.codec (Handle.statement p.handle).Asks) t.2 := by
  refine (ends_execute env values scope p c).bind ?_ fun f t ⟨same, executes⟩ => ⟨same, executes.writes⟩
  rintro reply t ⟨same, executes⟩
  have done : t.1 = p ∧ c.Writes (Frame.Carries env.codec (Handle.statement p.handle).Asks) t.2 :=
    ⟨same, executes.writes⟩
  refine .actSession (.object (.heldOfAttempt (fun _ _ => ?_) fun _ _ => done))
  exact .heldOfAttempt (fun _ _ => .pure done) fun _ _ => done

namespace Cursor

open Held

/-- A cursor was read on: it is open or closed as before, and all that was asked for is its pages.
A cursor that has received all its rows asks for nothing. -/
structure Reads (env : Environment ω) (s t : Cursor × Client ω) : Prop where
  handle : t.1.handle = s.1.handle
  isClosed : t.1.isClosed = s.1.isClosed
  writes : s.2.Writes (Frame.Carries env.codec (Handle.resultSet s.1.handle).Asks) t.2
  complete : s.1.total ≤ s.1.fetched → t.1.total ≤ t.1.fetched ∧ t.2.frames = s.2.frames

instance : IsPreorder (Cursor × Client ω) (Reads env) where
  refl _ := ⟨rfl, rfl, .of_frames rfl, fun h => ⟨h, rfl⟩⟩
  trans s t u h h' := by
    refine ⟨h'.handle.trans h.handle, h'.isClosed.trans h.isClosed, ?_, fun complete => ?_⟩
    · have writes := h'.writes
      rw [h.handle] at writes
      exact trans_of (Writes _) h.writes writes
    · obtain ⟨complete, frames⟩ := h.complete complete
      obtain ⟨complete, frames'⟩ := h'.complete complete
      exact ⟨complete, frames'.trans frames⟩

theorem Turning.reads {x x' : Cursor} {r : Attempt Unit} (h : Turning env x c r x' c') :
    Reads env (x, c) (x', c') := by
  cases h with
  | held => exact refl_of (Reads env) (x, c)
  | fetched needs fetching =>
    have incomplete : ¬ x.total ≤ x.fetched := by
      simp only [needsPage, Bool.and_eq_true, decide_eq_true_eq] at needs
      omega
    have asked (tried : Tried env x.request c c') :
        c.Writes (Frame.Carries env.codec (Handle.resultSet x.handle).Asks) c' := by
      obtain frames | ⟨payload, encoded, frames⟩ := tried.frames
      · exact .of_frames frames
      · refine ⟨_, frames, ?_⟩
        rintro frame (_ | ⟨_, ⟨⟩⟩)
        exact ⟨_, .page .., encoded⟩
    cases fetching with
    | turned _ _ _ tried => exact ⟨rfl, rfl, asked tried, fun h => absurd h incomplete⟩
    | failed tried =>
      obtain rfl | tried := tried
      · exact refl_of (Reads env) _
      · exact ⟨rfl, rfl, asked tried, fun h => absurd h incomplete⟩

theorem reads_pass : Leads (Reads env) (change pass : Held Cursor ω Unit) :=
  fun _ => ⟨rfl, rfl, .of_frames rfl, fun h => ⟨h, rfl⟩⟩

theorem reads_nextInto (row : List Value) : Leads (Reads env) (nextInto env row) := by
  intro (x, c)
  refine .object (.ite (fun _ => .pure (refl_of (Reads env) _)) fun _ => ?_)
  refine .heldAttempt (ends_turning env x c) ?_
  rintro (f | _) ⟨x', c'⟩ turning
  · exact .pure turning.reads
  · refine .object ?_
    rcases x'.fill 0 row with ⟨row, _ | _⟩
    · exact .pure turning.reads
    · exact .change (.pure (trans_of (Reads env) turning.reads (reads_pass _)))

theorem reads_ofAttempt (r : Attempt α) : Leads (Reads env) (ofAttempt r : Held Cursor ω α) := fun _ =>
  refl_of (Reads env) _

theorem reads_object : Leads (Reads env) (object : Held Cursor ω Cursor) := fun _ =>
  refl_of (Reads env) _

theorem reads_next : Leads (Reads env) (next env) := by
  refine .bind reads_object fun x => .bind (reads_nextInto _) fun _ => ?_
  exact .bind (reads_ofAttempt _) fun _ => .pure _

theorem reads_upTo (n : Nat) : Leads (Reads env) (upTo env n) := by
  induction n with
  | zero => exact .pure _
  | succ n ih =>
    refine .bind reads_next fun row => ?_
    cases row with
    | none => exact .pure _
    | some row => exact .bind ih fun _ => .pure _

theorem reads_rest : Leads (Reads env) (rest env) := .bind reads_object fun _ => reads_upTo _

end Cursor
end ExaWire
