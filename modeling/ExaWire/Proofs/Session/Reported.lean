/-
ExaWire/Proofs/Session/Reported.lean

What goes wrong in an exchange is reported.

Whatever the channel and the scope do, an exchange of a request that is an object fails in
one of the failures that tell of exchanges, and never in a fault.  So such a request ends in
one of two ways: in a failure of that sort, or in what its own reply was read as.
-/
import ExaWire.Proofs.Session.Closing

namespace ExaWire.Session

open Network
open ExaWire.Action

variable {ω α : Type} {env : Environment ω}

/-! ### Exchanges -/

theorem failsOnly_orBreak (r : Attempt α) :
    FailsOnly (·.isOfExchange = true) (orBreak r : Action ω α) := by
  cases r with
  | ok a => exact .pure a
  | error f =>
    intro c
    refine (ends_throw_breakFor "network failure" f.message c).mono ?_
    rintro r c' ⟨⟨text, rfl⟩, -⟩ g ⟨⟩
    rfl

theorem failsOnly_write (entries : List (Value × Value)) :
    FailsOnly (·.isOfExchange = true) (write env (.object entries)) := by
  refine .bind .session fun s => .bind (.ofAttempt (fails_encode _ _ _)) fun payload => ?_
  refine .bind (.ofAttempt (.ok _)) fun name => .bind (.update _) fun _ => ?_
  exact .bind (.attempt _) failsOnly_orBreak

theorem failsOnly_read : FailsOnly (·.isOfExchange = true) (read env) := by
  refine .bind (.attempt _) fun r => .bind (failsOnly_orBreak r) fun payload => ?_
  refine .bind .session fun s => ?_
  cases decode env.codec s.compressing payload with
  | ok entries => exact .pure entries
  | error u =>
    intro c
    refine (ends_throw_breakFor u.what u.why c).mono ?_
    rintro r c' ⟨⟨text, rfl⟩, -⟩ g ⟨⟩
    rfl

theorem failsOnly_abort (cause : Cause) :
    FailsOnly (·.isOfExchange = true) (abort env cause : Action ω α) := by
  refine .bind (.update _) fun _ => .bind (.update _) fun _ => .bind .session fun s => ?_
  refine .bind (.ofAttempt (fails_encode _ _ _)) fun payload => .bind (.attempt _) fun r => ?_
  cases r with
  | ok _ => exact .throw rfl
  | error _ => exact .throw rfl

theorem failsOnly_reply (scope : Option ScopeId) :
    FailsOnly (·.isOfExchange = true) (reply env scope) := by
  cases scope with
  | none => exact failsOnly_read
  | some scope =>
    -- the wait itself does not fail, it only tells how it ended
    have waits : FailsOnly (·.isOfExchange = true) (fun c =>
        (.ok (await env scope c).1, (await env scope c).2) : Action ω Waited) := by
      rintro c f ⟨⟩
    refine .bind waits fun waited => ?_
    cases waited with
    | ready => exact failsOnly_read
    | cancelled cause => exact failsOnly_abort cause
    | failed f => exact failsOnly_orBreak (.error f)

theorem fails_usable (s : Session) (entries : List (Value × Value)) :
    Fails (·.isOfExchange = true) (s.usable (.object entries)) := by
  unfold usable
  split
  · exact .error rfl
  · exact .error rfl
  · exact .ite (.ok _) (.bind (.ok _) fun _ => .error rfl)

theorem failsOnly_exchange (entries : List (Value × Value)) (scope : Option ScopeId) :
    FailsOnly (·.isOfExchange = true) (exchange env (.object entries) scope) :=
  .bind .session fun s => .bind (.ofAttempt (fails_usable s entries)) fun _ =>
    .bind (failsOnly_write entries) fun _ => failsOnly_reply scope

/-! ### Requests -/

/-- How a request ends whose failures are told: as any request does, and what went wrong on the
way is told by a failure of the exchange. -/
inductive Told (env : Environment ω) (request : Value) (read : Value → Attempt α) (c : Client ω) :
    Attempt α → Client ω → Prop
  | refused {f} (exchange : f.isOfExchange = true) : Told env request read c (.error f) c
  | failed {payload f c' news} (exchange : f.isOfExchange = true)
      (free : c.session.outstanding = false) (carries : c.session.Carries)
      (hp : encode env.codec c.session.compressing request = .ok payload)
      (hn : CutShort env ⟨payload, c.session.compressing⟩ news)
      (goes : c.Goes c' c.session.broken news) : Told env request read c (.error f) c'
  | answered {payload bs entries r c'} (free : c.session.outstanding = false)
      (h : Answers env request c payload bs entries c') (given : answer read entries = r) :
    Told env request read c r c'

theorem ends_send_told (fields : List (Value × Value)) (read : Value → Attempt α)
    (scope : Option ScopeId) (c : Client ω) :
    Ends (send env (.object fields) read scope) c (Told env (.object fields) read c) := by
  have reports : Ends (exchange env (.object fields) scope) (marked c) fun r _ =>
      ∀ f, r = .error f → f.isOfExchange = true := failsOnly_exchange fields scope _
  refine ends_send_marked ((ends_exchange env _ scope _).and reports) ?_ ?_ ?_
  · intro f hf
    have granted : Fails (·.isOfExchange = true) c.session.grant := .ite (.error rfl) (.ok _)
    exact .refused (granted f hf)
  · rintro free entries c₁ ⟨_ | _ | h, -⟩
    exact .answered free (h.unmark free) rfl
  · rintro free f c₁ ⟨_ | ⟨-, carries, hp, hn, h⟩ | _, told⟩
    · rw [unmarked_marked free]
      exact .refused (told f rfl)
    · have begun : c.session.Carries := ⟨carries.isOpen, carries.attached⟩
      exact .failed (told f rfl) free begun hp hn (goes_unmarked (flag_broken free) h)

end ExaWire.Session
