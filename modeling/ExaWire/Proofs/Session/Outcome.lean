/-
ExaWire/Proofs/Session/Outcome.lean

The outcome of a request is decided by what is observed first.

A request is encoded and handed to the wire, and then its reply is awaited.  A wait is a
series of rounds (`Waits`): each polls the scope, and the channel only if the scope is not
cancelled, and the next round begins only if there is nothing to read yet.  So the first
poll of the scope that tells a cause, the first poll of the channel that fails and the first
one that finds a reply exclude each other, and of the first two the one that is asked first
wins, even if a reply is there already.

This gives five ways (`Way`), and `Outcome` says of each what it does to the wire, to the
trace, to the session and to the result.  Which one it is follows from encoding, wire and
schedule alone (`wayOf`), so no request ends in two of them.
-/
import ExaWire.Proofs.Scope
import ExaWire.Proofs.Script.Course
import ExaWire.Proofs.Session.Tried
import Mathlib.Logic.ExistsUnique

namespace ExaWire.Session

open Network
open ExaWire.Action

variable {ω α : Type} {env : Environment ω} {c d : Client ω} {fields : List (Value × Value)}

/-! ### Waits -/

/-- Rounds of a wait that find neither a cause nor a reply. -/
inductive Waits (env : Environment ω) (scope : ScopeId) : Client ω → Client ω → Prop
  | here (c : Client ω) : Waits env scope c c
  | round {c d : Client ω} (unseen : (c.poll scope).1 = none)
      (unready : (Channel.poll env (c.poll scope).2).1 = .ok false)
      (rest : Waits env scope (Channel.poll env (c.poll scope).2).2.idle d) : Waits env scope c d

/-- What ends a wait after some rounds. -/
inductive Ended (env : Environment ω) (scope : ScopeId) (d : Client ω) : Waited → Client ω → Prop
  | cancelled {cause} (seen : (d.poll scope).1 = some cause) :
    Ended env scope d (.cancelled cause) (d.poll scope).2
  | failed {f} (unseen : (d.poll scope).1 = none)
      (broke : (Channel.poll env (d.poll scope).2).1 = .error f) :
    Ended env scope d (.failed f) (Channel.poll env (d.poll scope).2).2
  | ready (unseen : (d.poll scope).1 = none)
      (found : (Channel.poll env (d.poll scope).2).1 = .ok true) :
    Ended env scope d .ready (Channel.poll env (d.poll scope).2).2

/-- Every wait ends after some rounds. -/
theorem exists_ended (env : Environment ω) (scope : ScopeId) (c : Client ω) :
    ∃ d, Waits env scope c d ∧
      Ended env scope d (await env scope c).1 (await env scope c).2 := by
  fun_induction await env scope c with
  | case1 c cause seen => exact ⟨c, .here c, .cancelled seen⟩
  | case2 c unseen f broke => exact ⟨c, .here c, .failed unseen broke⟩
  | case3 c unseen found => exact ⟨c, .here c, .ready unseen found⟩
  | case4 c unseen unready ih =>
    obtain ⟨d, waits, ended⟩ := ih
    exact ⟨d, .round unseen unready waits, ended⟩

/-! ### Ways to end -/

/-- The ways in which a request can end. -/
inductive Way
  /-- it cannot be written as JSON -/
  | unwritable
  /-- its frame cannot be sent -/
  | unsent
  /-- its scope is seen cancelled -/
  | cancelled
  /-- a poll of the channel fails -/
  | unpolled
  /-- a reply is asked for -/
  | read
deriving DecidableEq, Repr

/-- The client when it has handed the frame of its request to the wire. -/
def posed (env : Environment ω) (fields : List (Value × Value)) (payload : Bytes) (c : Client ω) :
    Client ω :=
  let name := ((Value.lookup? "command" fields).getD (.text "login")).plain
  (Channel.send env ⟨payload, c.session.compressing⟩
    ((marked c).annotate [⟨.debug, "-> " ++ name⟩])).2

/-- A request has a payload, and the wire takes its frame. -/
structure Poses (env : Environment ω) (fields : List (Value × Value)) (c : Client ω)
    (payload : Bytes) : Prop where
  encoded : encode env.codec c.session.compressing (.object fields) = .ok payload
  taken : (env.wire.send ⟨payload, c.session.compressing⟩ c.wire).result = .ok ()

/-- The reading of a reply begins at once if there is no scope, and else when a poll of the channel
finds a reply and no poll of the scope before it has told a cause. -/
inductive Reads (env : Environment ω) : Option ScopeId → Client ω → Client ω → Prop
  | unscoped (c : Client ω) : Reads env none c c
  | polled {scope : ScopeId} {c d : Client ω} (waits : Waits env scope c d)
      (unseen : (d.poll scope).1 = none)
      (found : (Channel.poll env (d.poll scope).2).1 = .ok true) :
    Reads env (some scope) c (Channel.poll env (d.poll scope).2).2

/-- A payload is a reply: it can be inflated if it has to be, and it is the JSON of an object. -/
def IsReply (codec : Codec) (compressing : Bool) (bs : Bytes) (entries : List (Value × Value)) :
    Prop :=
  ∃ text, (if compressing then codec.inflate? bs else some bs) = some text ∧
    Json.read text = .ok (.object entries)

theorem decode_eq_ok {codec : Codec} {compressing : Bool} {bs : Bytes}
    {entries : List (Value × Value)} :
    decode codec compressing bs = .ok entries ↔ IsReply codec compressing bs entries := by
  unfold decode IsReply
  cases (if compressing then codec.inflate? bs else some bs) with
  | none => simp
  | some text =>
    simp only [Option.some.injEq, exists_eq_left']
    rcases Json.read text with f | v
    · simp
    · cases v <;> simp

/-- What a request does in each of its ways, to a client that can carry it: what was observed, what
became of wire, trace and session, and how the request ended. -/
inductive Outcome (env : Environment ω) (fields : List (Value × Value)) (read : Value → Attempt α)
    (scope : Option ScopeId) (c : Client ω) : Way → Attempt α → Client ω → Prop
  /-- Nothing is written or read, and the client is what it was. -/
  | unwritable {text}
      (why : encode env.codec c.session.compressing (.object fields) = .error (.of .broken text)) :
    Outcome env fields read scope c .unwritable (.error (.of .broken text)) c
  /-- Nothing is read. -/
  | unsent {payload why text c'}
      (encoded : encode env.codec c.session.compressing (.object fields) = .ok payload)
      (refused : (env.wire.send ⟨payload, c.session.compressing⟩ c.wire).result = .error why)
      (wire : c'.wire = (env.wire.send ⟨payload, c.session.compressing⟩ c.wire).rest)
      (goes : c.Goes c' c.session.broken []) :
    Outcome env fields read scope c .unsent (.error (.of .broken text)) c'
  /-- The abort is sent, and nothing is read. -/
  | cancelled {payload id d cause abort c'} (poses : Poses env fields c payload)
      (under : scope = some id) (waits : Waits env id (posed env fields payload c) d)
      (seen : (d.poll id).1 = some cause) (known : (d.poll id).2.scopes.cause? id = some cause)
      (encoded : encode env.codec c.session.compressing Command.abortQuery = .ok abort)
      (taken : (env.wire.send ⟨abort, c.session.compressing⟩ d.wire).result = .ok ())
      (wire : c'.wire = (env.wire.send ⟨abort, c.session.compressing⟩ d.wire).rest)
      (goes : c.Goes c' c.session.broken
        [.sent ⟨payload, c.session.compressing⟩, .sent ⟨abort, c.session.compressing⟩]) :
    Outcome env fields read scope c .cancelled (.error (.cancelled cause)) c'
  /-- The abort cannot be sent, and nothing is read. -/
  | notAborted {payload id d cause abort why c'} (poses : Poses env fields c payload)
      (under : scope = some id) (waits : Waits env id (posed env fields payload c) d)
      (seen : (d.poll id).1 = some cause) (known : (d.poll id).2.scopes.cause? id = some cause)
      (encoded : encode env.codec c.session.compressing Command.abortQuery = .ok abort)
      (refused : (env.wire.send ⟨abort, c.session.compressing⟩ d.wire).result = .error why)
      (wire : c'.wire = (env.wire.send ⟨abort, c.session.compressing⟩ d.wire).rest)
      (goes : c.Goes c' c.session.broken [.sent ⟨payload, c.session.compressing⟩]) :
    Outcome env fields read scope c .cancelled (.error (.notAborted cause)) c'
  /-- Nothing is read. -/
  | unpolled {payload id d f text c'} (poses : Poses env fields c payload)
      (under : scope = some id) (waits : Waits env id (posed env fields payload c) d)
      (unseen : (d.poll id).1 = none)
      (broke : (Channel.poll env (d.poll id).2).1 = .error f)
      (wire : c'.wire = (Channel.poll env (d.poll id).2).2.wire)
      (goes : c.Goes c' c.session.broken [.sent ⟨payload, c.session.compressing⟩]) :
    Outcome env fields read scope c .unpolled (.error (.of .broken text)) c'
  /-- The one reading fails. -/
  | lost {payload d text c'} (poses : Poses env fields c payload)
      (reads : Reads env scope (posed env fields payload c) d)
      (nothing : ∀ bs, (env.wire.receive d.wire).result ≠ .ok (some bs))
      (wire : c'.wire = (env.wire.receive d.wire).rest)
      (goes : c.Goes c' c.session.broken [.sent ⟨payload, c.session.compressing⟩]) :
    Outcome env fields read scope c .read (.error (.of .broken text)) c'
  /-- The one reading gives something that is no reply. -/
  | garbled {payload d bs text c'} (poses : Poses env fields c payload)
      (reads : Reads env scope (posed env fields payload c) d)
      (given : (env.wire.receive d.wire).result = .ok (some bs))
      (unreadable : ∀ entries, ¬ IsReply env.codec c.session.compressing bs entries)
      (wire : c'.wire = (env.wire.receive d.wire).rest)
      (goes : c.Goes c' c.session.broken
        [.sent ⟨payload, c.session.compressing⟩, .received bs]) :
    Outcome env fields read scope c .read (.error (.of .broken text)) c'
  /-- The one reading gives a reply, whatever it says: the session is what it was. -/
  | answered {payload d bs entries c'} (poses : Poses env fields c payload)
      (reads : Reads env scope (posed env fields payload c) d)
      (given : (env.wire.receive d.wire).result = .ok (some bs))
      (readable : IsReply env.codec c.session.compressing bs entries)
      (wire : c'.wire = (env.wire.receive d.wire).rest)
      (goes : c.Goes c' c.session [.sent ⟨payload, c.session.compressing⟩, .received bs]) :
    Outcome env fields read scope c .read (answer read entries) c'

/-- The way in which a request ends whose wait has ended. -/
def Waited.way : Waited → Way
  | .cancelled _ => .cancelled
  | .failed _ => .unpolled
  | .ready => .read

/-- What stands in the way of encoding a request is told. -/
theorem exists_text_of_encode {codec : Codec} {compressing : Bool} {f : Failure}
    (h : encode codec compressing (.object fields) = .error f) : ∃ text, f = .of .broken text := by
  have unwritable := Json.fails_write (.object fields)
  unfold encode at h
  split at h
  · cases h
  · next g hg =>
    have kinds : g = .wrongKind ∨ g = .badValue := by
      simpa [Failure.isUnwritable] using unwritable _ hg
    rw [if_pos kinds] at h
    cases h
    exact ⟨_, rfl⟩
  · next g hg hw =>
    have fault := unwritable _ hw
    cases g with
    | fault f => exact absurd rfl (hg f)
    | _ => cases fault

/-- An abort can always be encoded. -/
theorem exists_encode_abortQuery (codec : Codec) (compressing : Bool) :
    ∃ bs, encode codec compressing Command.abortQuery = .ok bs := ⟨_, rfl⟩

/-- How a request is written. -/
inductive Puts (env : Environment ω) (fields : List (Value × Value)) (c : Client ω) :
    Attempt Unit → Client ω → Prop
  | unwritable {text}
      (why : encode env.codec c.session.compressing (.object fields) = .error (.of .broken text)) :
    Puts env fields c (.error (.of .broken text)) (marked c)
  | unsent {payload why text c'}
      (encoded : encode env.codec c.session.compressing (.object fields) = .ok payload)
      (refused : (env.wire.send ⟨payload, c.session.compressing⟩ c.wire).result = .error why)
      (wire : c'.wire = (env.wire.send ⟨payload, c.session.compressing⟩ c.wire).rest)
      (goes : (marked c).Goes c' (marked c).session.broken []) :
    Puts env fields c (.error (.of .broken text)) c'
  | posed {payload} (poses : Poses env fields c payload)
      (goes : (marked c).Goes (posed env fields payload c) (marked c).session
        [.sent ⟨payload, c.session.compressing⟩]) :
    Puts env fields c (.ok ()) (posed env fields payload c)

theorem ends_puts (env : Environment ω) (fields : List (Value × Value)) (c : Client ω) :
    Ends (write env (.object fields)) (marked c) (Puts env fields c) := by
  refine .session (.ofAttempt (fun payload encoded => ?_) fun f unwritable => ?_)
  · let name := ((Value.lookup? "command" fields).getD (.text "login")).plain
    have quiet := (marked c).steady_annotate [⟨.debug, "-> " ++ name⟩]
    refine .ofAttempt_ok (b := name) rfl (.note ?_)
    refine .attempt (R := fun r c₁ => Channel.Sent env ⟨payload, c.session.compressing⟩
      ((marked c).annotate [⟨.debug, "-> " ++ name⟩]) r c₁ ∧ c₁ = posed env fields payload c) ?_ ?_
    · exact ⟨Channel.ends_send env _ _, rfl⟩
    · rintro r c₁ ⟨⟨refused, h⟩ | ⟨taken, -, h⟩, rfl⟩
      · have wire := Channel.wire_send env ⟨payload, c.session.compressing⟩
          ((marked c).annotate [⟨.debug, "-> " ++ name⟩])
        refine (Ends.and (ends_throw_breakFor ..) (still_throw_breakFor _ _ _)).mono ?_
        rintro r c₂ ⟨⟨⟨text, rfl⟩, h₂⟩, still⟩
        rw [h.session] at h₂
        exact .unsent encoded refused (still.wire.trans wire) (.afterSteady quiet (.afterSteady h h₂))
      · exact .pure (.posed ⟨encoded, taken⟩ (.afterSteady quiet h))
  · obtain ⟨text, rfl⟩ := exists_text_of_encode unwritable
    exact .unwritable unwritable

/-- How the reading of a reply ends, in a client `d` that was `c` when its request was written. -/
inductive Judges (env : Environment ω) (d : Client ω) :
    Attempt (List (Value × Value)) → Client ω → Prop
  | lost {text c'} (nothing : ∀ bs, (env.wire.receive d.wire).result ≠ .ok (some bs))
      (wire : c'.wire = (env.wire.receive d.wire).rest) (goes : d.Goes c' d.session.broken []) :
    Judges env d (.error (.of .broken text)) c'
  | garbled {bs text c'} (given : (env.wire.receive d.wire).result = .ok (some bs))
      (unreadable : ∀ entries, ¬ IsReply env.codec d.session.compressing bs entries)
      (wire : c'.wire = (env.wire.receive d.wire).rest)
      (goes : d.Goes c' d.session.broken [.received bs]) :
    Judges env d (.error (.of .broken text)) c'
  | answered {bs entries c'} (given : (env.wire.receive d.wire).result = .ok (some bs))
      (readable : IsReply env.codec d.session.compressing bs entries)
      (wire : c'.wire = (env.wire.receive d.wire).rest)
      (goes : d.Goes c' d.session [.received bs]) : Judges env d (.ok entries) c'

theorem ends_judges (env : Environment ω) (d : Client ω) : Ends (read env) d (Judges env d) := by
  refine .attempt ((Channel.ends_receive env d).and (Channel.ends_receive_once env d)) ?_
  rintro r c₁ ⟨⟨nothing, h⟩ | ⟨given, -, h⟩, wire, -⟩
  · refine Ends.bind ((ends_throw_breakFor ..).and (still_throw_breakFor _ _ _)) ?_ ?_
    · rintro x c₂ ⟨⟨⟨text, ⟨⟩⟩, -⟩, -⟩
    · rintro f c₂ ⟨⟨⟨text, ⟨⟩⟩, h₂⟩, still⟩
      rw [h.session] at h₂
      exact .lost nothing (still.wire.trans wire) (.afterSteady h h₂)
  · rename_i bs
    have taken : (orBreak (.ok bs) : Action ω Bytes) = pure bs := rfl
    rw [taken, pure_bind]
    refine .session ?_
    rw [h.session]
    cases decoded : decode env.codec d.session.compressing bs with
    | ok entries => exact .pure (.answered given (decode_eq_ok.1 decoded) wire h)
    | error u =>
      have unreadable : ∀ entries, ¬ IsReply env.codec d.session.compressing bs entries := by
        intro entries readable
        cases decoded.symm.trans (decode_eq_ok.2 readable)
      refine ((ends_throw_breakFor ..).and (still_throw_breakFor _ _ _)).mono ?_
      rintro r c₂ ⟨⟨⟨text, rfl⟩, h₂⟩, still⟩
      rw [h.session] at h₂
      exact .garbled given unreadable (still.wire.trans wire) (h.trans h₂)

/-- How the giving up of a request ends. -/
inductive Aborts (env : Environment ω) (d : Client ω) (cause : Cause) :
    Attempt α → Client ω → Prop
  | sent {abort c'} (encoded : encode env.codec d.session.compressing Command.abortQuery = .ok abort)
      (taken : (env.wire.send ⟨abort, d.session.compressing⟩ d.wire).result = .ok ())
      (wire : c'.wire = (env.wire.send ⟨abort, d.session.compressing⟩ d.wire).rest)
      (goes : d.Goes c' d.session.broken [.sent ⟨abort, d.session.compressing⟩]) :
    Aborts env d cause (.error (.cancelled cause)) c'
  | unsent {abort why c'}
      (encoded : encode env.codec d.session.compressing Command.abortQuery = .ok abort)
      (refused : (env.wire.send ⟨abort, d.session.compressing⟩ d.wire).result = .error why)
      (wire : c'.wire = (env.wire.send ⟨abort, d.session.compressing⟩ d.wire).rest)
      (goes : d.Goes c' d.session.broken []) : Aborts env d cause (.error (.notAborted cause)) c'

theorem ends_aborts (env : Environment ω) (cause : Cause) (d : Client ω) :
    Ends (abort env cause : Action ω α) d (Aborts env d cause) := by
  obtain ⟨abort, encoded⟩ := exists_encode_abortQuery env.codec d.session.compressing
  -- the session is broken before the abort is sent, and so stays broken if that fails
  let d₁ := { d with session := d.session.broken }
  let d₂ := d₁.annotate
    [⟨.warn, "Request cancelled (" ++ cause.text ++ "), sending abortQuery"⟩]
  have h₂ : d.Goes d₂ d.session.broken [] :=
    ⟨rfl, rfl, by simp [Client.trace, Client.annotate, d₂, d₁]⟩
  refine .setSession (.note (.session (.ofAttempt_ok encoded ?_)))
  refine .attempt (R := fun r c' => Channel.Sent env ⟨abort, d.session.compressing⟩ d₂ r c' ∧
    c'.wire = (env.wire.send ⟨abort, d.session.compressing⟩ d.wire).rest) ?_ ?_
  · exact ⟨Channel.ends_send env _ d₂, Channel.wire_send env _ d₂⟩
  · rintro r c' ⟨⟨refused, h⟩ | ⟨taken, -, h⟩, wire⟩
    · exact .throw (.unsent encoded refused wire (h₂.steady h))
    · exact .throw (.sent encoded taken wire (h₂.trans h))

/-! ### The whole request -/

section Whole

variable {read : Value → Attempt α} {scope : Option ScopeId} {payload : Bytes} {c' : Client ω}

theorem Judges.outcome {r : Attempt (List (Value × Value))} (free : c.session.outstanding = false)
    (poses : Poses env fields c payload) (reads : Reads env scope (posed env fields payload c) d)
    (goes : (marked c).Goes d (marked c).session [.sent ⟨payload, c.session.compressing⟩])
    (h : Judges env d r c') :
    Outcome env fields read scope c .read (r >>= answer read) (unmarked c') := by
  cases h with
  | lost nothing wire h =>
    rw [goes.session] at h
    exact .lost poses reads nothing wire (goes_unmarked (flag_broken free) (goes.trans h))
  | garbled given unreadable wire h =>
    rw [goes.session] at h unreadable
    exact .garbled poses reads given unreadable wire (goes_unmarked (flag_broken free) (goes.trans h))
  | answered given readable wire h =>
    rw [goes.session] at h readable
    exact .answered poses reads given readable wire (goes_unmarked (flag_free free) (goes.trans h))

theorem Aborts.outcome {id : ScopeId} {cause : Cause} {r : Attempt (List (Value × Value))}
    (free : c.session.outstanding = false) (poses : Poses env fields c payload)
    (waits : Waits env id (posed env fields payload c) d) (seen : (d.poll id).1 = some cause)
    (goes : (marked c).Goes (d.poll id).2 (marked c).session
      [.sent ⟨payload, c.session.compressing⟩])
    (h : Aborts env (d.poll id).2 cause r c') :
    Outcome env fields read (some id) c .cancelled (r >>= answer read) (unmarked c') := by
  have known : (d.poll id).2.scopes.cause? id = some cause := Scopes.cause?_poll seen
  cases h with
  | sent encoded taken wire h =>
    rw [goes.session] at encoded taken wire h
    exact .cancelled poses rfl waits seen known encoded taken wire
      (goes_unmarked (flag_broken free) (goes.trans h))
  | unsent encoded refused wire h =>
    rw [goes.session] at encoded refused wire h
    exact .notAborted poses rfl waits seen known encoded refused wire
      (goes_unmarked (flag_broken free) (goes.trans h))

theorem ends_reply_outcome (free : c.session.outstanding = false) (poses : Poses env fields c payload)
    (goes : (marked c).Goes (posed env fields payload c) (marked c).session
      [.sent ⟨payload, c.session.compressing⟩]) :
    Ends (reply env scope) (posed env fields payload c) fun r c' =>
      ∃ way, Outcome env fields read scope c way (r >>= answer read) (unmarked c') := by
  cases scope with
  | none =>
    refine (ends_judges env _).mono ?_
    intro r c' judged
    exact ⟨.read, judged.outcome free poses (.unscoped _) goes⟩
  | some id =>
    obtain ⟨d, waits, ended⟩ := exists_ended env id (posed env fields payload c)
    have waited := goes.steady (steady_await env id (posed env fields payload c)).1
    -- the wait itself does not fail, it only tells how it ended
    have waiting : Ends (fun c => (.ok (await env id c).1, (await env id c).2) : Action ω Waited)
        (posed env fields payload c) fun r c' =>
          r = .ok (await env id (posed env fields payload c)).1 ∧
          c' = (await env id (posed env fields payload c)).2 := ⟨rfl, rfl⟩
    refine waiting.bind ?_ ?_
    · rintro _ _ ⟨⟨⟩, rfl⟩
      generalize (await env id (posed env fields payload c)).1 = w,
        (await env id (posed env fields payload c)).2 = d' at ended waited
      cases ended with
      | cancelled seen =>
        refine (ends_aborts env _ _).mono ?_
        intro r c' aborts
        exact ⟨.cancelled, aborts.outcome free poses waits seen waited⟩
      | failed unseen broke =>
        refine (Ends.and (ends_throw_breakFor ..) (still_throw_breakFor _ _ _)).mono ?_
        rintro r c' ⟨⟨⟨text, rfl⟩, h⟩, still⟩
        rw [waited.session] at h
        exact ⟨.unpolled, .unpolled poses rfl waits unseen broke still.wire
          (goes_unmarked (flag_broken free) (waited.trans h))⟩
      | ready unseen found =>
        refine (ends_judges env _).mono ?_
        intro r c' judged
        exact ⟨.read, judged.outcome free poses (.polled waits unseen found) waited⟩
    · rintro f c₁ ⟨⟨⟩, -⟩

theorem ends_send_outcome (carries : c.session.Carries) (free : c.session.outstanding = false) :
    Ends (send env (.object fields) read scope) c fun r c' =>
      ∃ way, Outcome env fields read scope c way r c' := by
  have begun : (marked c).session.Carries := ⟨carries.isOpen, carries.attached⟩
  have exchanged : Ends (exchange env (.object fields) scope) (marked c) fun r c' =>
      ∃ way, Outcome env fields read scope c way (r >>= answer read) (unmarked c') := by
    refine .session (.ofAttempt_ok (usable_of_carries begun _) ?_)
    refine (ends_puts env fields c).bind ?_ ?_
    · rintro ⟨⟩ c₁ (_ | _ | ⟨poses, goes⟩)
      exact ends_reply_outcome free poses goes
    · rintro f c₁ (⟨unwritable⟩ | ⟨encoded, refused, wire, goes⟩ | _)
      · rw [unmarked_marked free]
        exact ⟨.unwritable, .unwritable unwritable⟩
      · exact ⟨.unsent, .unsent encoded refused wire (goes_unmarked (flag_broken free) goes)⟩
  refine ends_send_marked exchanged ?_ ?_ ?_
  · intro f refused
    simp [grant, free] at refused
  · exact fun _ _ _ h => h
  · exact fun _ _ _ h => h

end Whole

end ExaWire.Session
