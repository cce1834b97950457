/-
ExaWire/Proofs/Session/Accounted.lean

What comes of a reply whose data may be anything.

`Accounted` says how an operation ends that reads its result from a reply.  Either nothing was
made of any data: the exchange failed, or the server reported a failure, and that is told
(`beside`).  Or some reply that was read on the way carried data, and the result is what the
reading of these data gives (`read`); if that is a failure, then it tells of the data, or it is
a fault, and then the data have a field that does not fit.

The decoding of a reply takes most faults for undecodable data and reports them.  What
escapes it are those of `Escaping`: a number too great, and a member of what is no object.
-/
import ExaWire.Proofs.Reply.Misfit

namespace ExaWire

open Network
open Failure (Explained)

variable {ω α β : Type} {env : Environment ω} {c c' c₁ c₂ c₃ : Client ω}

/-! ### Replies on the way -/

/-- On its way from `c` to `c'` a client read a reply that carries data. -/
def Client.Learns (codec : Codec) (compressing : Bool) (c c' : Client ω) (v : Value) : Prop :=
  ∃ news, c'.replies = c.replies ++ news ∧ ∃ bs ∈ news, ∃ reply,
    Session.decode codec compressing bs = .ok reply ∧ Session.data reply = .ok v

namespace Client.Learns

variable {codec : Codec} {compressing : Bool} {v : Value}

/-- What is learnt on a part of the way is learnt on the whole of it. -/
theorem along (h : Learns codec compressing c₁ c₂ v) (before : c.replies <+: c₁.replies)
    (after : c₂.replies <+: c₃.replies) : Learns codec compressing c c₃ v := by
  obtain ⟨news, e, bs, mem, told⟩ := h
  obtain ⟨old, e₁⟩ := before
  obtain ⟨late, e₂⟩ := after
  refine ⟨old ++ news ++ late, ?_, bs, ?_, told⟩
  · rw [← e₂, e, ← e₁, List.append_assoc, List.append_assoc, List.append_assoc]
  · exact List.mem_append_left _ (List.mem_append_right _ mem)

/-- A reply that was read last is read on the way. -/
theorem of_hasRead {reply : List (Value × Value)} (h : c.HasRead codec c' reply)
    (data : Session.data reply = .ok v) : Learns codec c.session.compressing c c' v := by
  obtain ⟨news, bs, goes, decoded⟩ := h
  refine ⟨Happening.replies (news ++ [.received bs]), goes.replies, bs, ?_, reply, decoded, data⟩
  rw [Happening.replies_append]
  exact List.mem_append_right _ (.head _)

end Client.Learns

/-- Whether a failure tells of something else than data that cannot be read. -/
def Failure.isBeside (f : Failure) : Bool := f.isReported && !f.tellsOfData

theorem Failure.isBeside_of_exchange {f : Failure} (h : f.isOfExchange = true) : f.isBeside = true := by
  cases f with
  | told kind text context => cases kind <;> first | rfl | cases h
  | cancelled | notAborted => rfl
  | _ => cases h

/-- How an operation ends that reads its result from data: `Reads` relates the two, and `Misfit`
tells what is wrong with data that end it in a fault. -/
inductive Accounted (codec : Codec) (compressing : Bool) (Reads : Value → Attempt α → Prop)
    (Misfit : Value → Fault → Prop) (c : Client ω) : Attempt α → Client ω → Prop
  | beside {f c'} (h : f.isBeside = true) : Accounted codec compressing Reads Misfit c (.error f) c'
  | read {v r c'} (learns : c.Learns codec compressing c' v) (reads : Reads v r)
      (explained : Fails (Explained (Misfit v)) r) : Accounted codec compressing Reads Misfit c r c'

namespace Accounted

variable {codec : Codec} {compressing : Bool} {Reads : Value → Attempt α → Prop}
  {Misfit : Value → Fault → Prop} {r : Attempt α}

theorem along (h : Accounted codec compressing Reads Misfit c₁ r c₂)
    (before : c.replies <+: c₁.replies) (after : c₂.replies <+: c₃.replies) :
    Accounted codec compressing Reads Misfit c r c₃ := by
  cases h with
  | beside h => exact .beside h
  | read learns reads explained => exact .read (learns.along before after) reads explained

theorem imp {Reads' : Value → Attempt α → Prop} (h : Accounted codec compressing Reads Misfit c r c')
    (reads : ∀ v, Reads v r → Reads' v r) : Accounted codec compressing Reads' Misfit c r c' := by
  cases h with
  | beside h => exact .beside h
  | read learns given explained => exact .read learns (reads _ given) explained

/-- A result that is worked out further, which may fail for reasons of its own. -/
theorem further {Reads' : Value → Attempt β → Prop} {Misfit' : Value → Fault → Prop}
    {N : α → Fault → Prop} {f : α → Attempt β} (h : Accounted codec compressing Reads Misfit c r c')
    (hf : ∀ a, Fails (Explained (N a)) (f a)) (reads : ∀ v r, Reads v r → Reads' v (r >>= f))
    (misfit : ∀ v x, Misfit v x → Misfit' v x)
    (more : ∀ v a x, Reads v (.ok a) → N a x → Misfit' v x) :
    Accounted codec compressing Reads' Misfit' c (r >>= f) c' := by
  cases h with
  | beside h => exact .beside h
  | @read v _ _ learns given explained =>
    refine .read learns (reads v r given) ?_
    cases r with
    | error g => exact .error ((explained g rfl).imp (misfit v))
    | ok a => exact .okBind ((hf a).mono fun _ hg => hg.imp fun x => more v a x given)

end Accounted

namespace Session

/-! ### Requests -/

/-- What the decoding of a reply makes of an attempt to read its data. -/
def judged : Attempt α → Attempt α
  | .error (.fault x) =>
    if isUndecodable x then
      .error (.protocol true ("could not decode response data: " ++ x.text) (.text "ok") .none)
    else fault x
  | r => r

/-- The faults of data that the decoding of a reply lets through. -/
def Escaping (Misfit : Value → Fault → Prop) (v : Value) (x : Fault) : Prop :=
  Misfit v x ∧ isUndecodable x = false

theorem judged_eq_ok {r : Attempt α} {a : α} (h : judged r = .ok a) : r = .ok a := by
  unfold judged at h
  split at h
  · split at h <;> cases h
  · exact h

theorem fails_judged {P : Fault → Prop} {r : Attempt α} (h : Fails (Explained P) r) :
    Fails (Explained fun x => P x ∧ isUndecodable x = false) (judged r) := by
  unfold judged
  split
  · next x =>
    split
    · exact .error (.inl rfl)
    · next other =>
      obtain told | ⟨_, ⟨⟩, reason⟩ := h _ rfl
      · cases told
      · exact .fault (.inr ⟨x, rfl, reason, by simpa using other⟩)
  · next other =>
    intro f hf
    obtain told | ⟨x, rfl, -⟩ := h f hf
    · exact .inl told
    · exact absurd hf (other x)

theorem fails_data_beside (reply : List (Value × Value)) : Fails (·.isBeside = true) (data reply) := by
  unfold data
  refine .ite (.ok _) ?_
  split
  · exact .error rfl
  · exact .error rfl

theorem status_of_data {reply : List (Value × Value)} {v : Value} (h : data reply = .ok v) :
    Value.field reply "status" = .text "ok" := by
  have isOk : (Value.field reply "status").isText "ok" = true := by
    cases e : (Value.field reply "status").isText "ok" with
    | true => rfl
    | false =>
      simp only [data, e, Bool.false_eq_true, if_false] at h
      split at h <;> cases h
  cases e : Value.field reply "status" with
  | text s =>
    rw [e] at isOk
    rw [of_decide_eq_true isOk]
  | _ =>
    rw [e] at isOk
    cases isOk

theorem responseData_of_data {reply : List (Value × Value)} {v : Value} (h : data reply = .ok v) :
    Value.field reply "responseData" = v := by
  have isOk : (Value.field reply "status").isText "ok" = true := by
    rw [status_of_data h]
    rfl
  unfold data at h
  dsimp only at h
  rw [if_pos isOk] at h
  exact Except.ok.inj h

/-- An answer is what the decoding makes of the data, if there are any. -/
theorem answer_of_data {read : Value → Attempt α} {reply : List (Value × Value)} {v : Value}
    (h : data reply = .ok v) : answer read reply = judged (read v) := by
  unfold answer judged
  rw [h, status_of_data h]
  rfl

theorem answer_of_error {read : Value → Attempt α} {reply : List (Value × Value)} {f : Failure}
    (h : data reply = .error f) : answer read reply = .error f := by
  unfold answer
  rw [h]
  rfl

/-- A request for a record ends in what its data are read as, or in a failure that concerns no
data. -/
theorem ends_send_accounted {read : Value → Attempt α} {Misfit : Value → Fault → Prop}
    (h : ∀ v, Fails (Explained (Misfit v)) (read v)) (fields : List (Value × Value))
    (scope : Option ScopeId) (c : Client ω) :
    Ends (send env (.object fields) read scope) c
      (Accounted env.codec c.session.compressing (fun v r => r = judged (read v)) (Escaping Misfit) c) := by
  refine (ends_send_told fields read scope c).mono ?_
  rintro r c' (exchange | exchange | ⟨-, answers, rfl⟩)
  · exact .beside (Failure.isBeside_of_exchange exchange)
  · exact .beside (Failure.isBeside_of_exchange exchange)
  · rename_i entries
    cases given : data entries with
    | error f =>
      rw [answer_of_error given]
      exact .beside (fails_data_beside entries f given)
    | ok v =>
      rw [answer_of_data given]
      exact .read (.of_hasRead answers.hasRead given) rfl (fails_judged (h v))

/-- A request whose reply is of no interest fails in a failure that concerns no data. -/
theorem ends_send_noData (fields : List (Value × Value)) (scope : Option ScopeId) (c : Client ω) :
    Ends (send env (.object fields) noData scope) c fun r _ => ∀ f, r = .error f → f.isBeside = true := by
  have fits (v : Value) : Fails (Explained fun _ => False) (noData v) := .ok ()
  refine (ends_send_accounted fits fields scope c).mono ?_
  rintro r c' (h | ⟨-, rfl, -⟩) f ⟨⟩
  exact h

/-! ### Logins -/

/-- What a login returns is what the data tell. -/
def LoginReads (v : Value) (r : Attempt LoginReply) : Prop :=
  ∀ info, r = .ok info → LoginReply.ofValue v = .ok info

/-- A number of the data is too great for a login: an infinite count, or a negative number of a
public key. -/
inductive LoginMisfit (v : Value) : Fault → Prop
  | key {key} (read : KeyReply.ofValue v = .ok key) (negative : key.HasNegative) : LoginMisfit v .tooGreat
  | info (infinite : LoginReply.HasInfinite v) : LoginMisfit v .tooGreat

theorem exists_data_of_answer {read : Value → Attempt α} {reply : List (Value × Value)} {a : α}
    (h : answer read reply = .ok a) : ∃ v, data reply = .ok v ∧ read v = .ok a := by
  cases given : data reply with
  | error f => cases (answer_of_error given).symm.trans h
  | ok v =>
    rw [answer_of_data given] at h
    exact ⟨v, rfl, judged_eq_ok h⟩

theorem tellsItself_beside {f : Failure} (h : tellsItself f = true) : f.isBeside = true := by
  cases f with
  | told kind text context => cases kind <;> first | rfl | cases h
  | cancelled | notAborted => rfl
  | _ => cases h

theorem ends_login_accounted (scope : Option ScopeId) (c : Client ω) :
    Ends (login env scope) c (Accounted env.codec false LoginReads LoginMisfit c) := by
  refine (ends_login_begun scope c).mono ?_
  have learns {c₁ : Client ω} {reply : List (Value × Value)} {v : Value}
      (last : Client.HasRead env.codec { c with session := c.session.opened } c₁ reply)
      (given : data reply = .ok v) : c.Learns env.codec false c₁ v := Client.Learns.of_hasRead last given
  rintro r c' (⟨last, read, later⟩ | ⟨tells, -⟩ | ⟨last, h⟩)
  · obtain ⟨v, given, told⟩ := exists_data_of_answer read
    refine .read ((learns last given).along (List.prefix_refl _) ⟨_, later.replies.symm⟩) ?_ (.ok _)
    rintro _ ⟨⟩
    exact told
  · exact .beside (tellsItself_beside tells)
  · cases h with
    | key read negative =>
      obtain ⟨v, given, told⟩ := exists_data_of_answer read
      refine .read (learns last given) (fun _ h => nomatch h) (.error (.inr ⟨_, rfl, ?_⟩))
      exact .key told negative
    | info given infinite =>
      refine .read (learns last given) (fun _ h => nomatch h) (.error (.inr ⟨_, rfl, ?_⟩))
      exact .info infinite

end Session

end ExaWire
