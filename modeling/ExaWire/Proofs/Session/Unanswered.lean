/-
ExaWire/Proofs/Session/Unanswered.lean

Failures that no reply brought about.

What a reply says is repeated by two kinds of failure (`Failure.isAnswer`).  The
attempts that come before a reply is read never end in one of these: a request
that is refused or that cannot be written as JSON is told by a failure of its own
or by a fault.
-/
import ExaWire.Proofs.Failing
import ExaWire.Session.Exchange

namespace ExaWire

variable {α : Type}

/-- Whether a failure repeats what a reply says: that a statement failed, that the status
is none, or that the data cannot be read. -/
def Failure.isAnswer : Failure → Bool
  | .sql _ _ | .protocol _ _ _ _ => true
  | _ => false

/-- Whether an attempt can only fail without an answer. -/
def Unanswered (a : Attempt α) : Prop := ∀ f, a = .error f → f.isAnswer = false

/-- What has no JSON form is told by a fault, which repeats nothing. -/
theorem Json.unanswered_write (v : Value) : Unanswered (write v) :=
  (fails_write v).mono fun f hf => by cases f <;> first | rfl | cases hf

theorem Value.unanswered_member (v : Value) (key : String) : Unanswered (v.member key) := by
  unfold member
  split
  · exact Fails.ok _
  · exact Fails.fault rfl

namespace Session

theorem unanswered_encode (codec : Codec) (compressing : Bool) (request : Value) :
    Unanswered (encode codec compressing request) := by
  have hw := Json.unanswered_write request
  unfold encode
  split
  · exact Fails.ok _
  · exact Fails.ite (Fails.bind (request.unanswered_member _) fun name => Fails.error rfl) (Fails.fault rfl)
  · next g _ h => exact Fails.error (hw g h)

theorem unanswered_nameOf (request : Value) : Unanswered (nameOf request) := by
  unfold nameOf
  split
  · exact Fails.ok _
  · exact Fails.fault rfl

theorem unanswered_usable (s : Session) (request : Value) : Unanswered (s.usable request) := by
  unfold usable
  split
  · exact Fails.error rfl
  · exact Fails.error rfl
  · exact Fails.ite (Fails.ok _) (Fails.bind (request.unanswered_member _) fun name => Fails.error rfl)

theorem unanswered_grant (s : Session) : Unanswered s.grant := by
  unfold grant
  exact Fails.ite (Fails.error rfl) (Fails.ok _)

end Session

end ExaWire
