/-
ExaWire/Proofs/Session/Beginning.lean

How the two exchanges of a login end.

Both requests are objects, so what goes wrong in an exchange is reported, and so is most of
what goes wrong in using its reply.  What is left are numbers too great to be used: a
negative one in the server's key, an infinite one in the reply to the credentials.  They
are told by a fault, and the session is what it was when the reply was read.
-/
import ExaWire.Proofs.Session.Reported

namespace ExaWire

open Network

variable {ω α : Type} {env : Environment ω}

/-! ### Numbers too great -/

/-- Whether a value is an infinite number. -/
def Value.isInfinite : Value → Bool
  | .float (.infinite _) | .decimal (.infinite _) => true
  | _ => false

/-- The numbers that a login reply tells. -/
def LoginReply.counts : List String := ["sessionId", "protocolVersion", "maxDataMessageSize"]

/-- A number that a login reply tells is infinite. -/
def LoginReply.HasInfinite (v : Value) : Prop :=
  ∃ fields, v = .object fields ∧ ∃ name ∈ counts, (Value.field fields name).isInfinite = true

/-- A number of a public key is negative. -/
def KeyReply.HasNegative (key : KeyReply) : Prop :=
  ∃ modulus exponent, readHex? key.modulus = some modulus ∧ readHex? key.exponent = some exponent ∧
    (modulus < 0 ∨ exponent < 0)

/-- What the reading of a record may end in: a failure that is reported, or a fault, which
tells of a number too great only if there is one. -/
inductive Misread (tooGreat : Prop) : Failure → Prop
  | reported {f} (h : f.isReported = true) : Misread tooGreat f
  | undecodable {x} (h : Session.isUndecodable x = true) : Misread tooGreat (.fault x)
  | tooGreat (h : tooGreat) : Misread tooGreat (.fault .tooGreat)

theorem Misread.imp {P Q : Prop} (h : P → Q) {f : Failure} (hf : Misread P f) : Misread Q f := by
  cases hf with
  | reported reported => exact .reported reported
  | undecodable undecodable => exact .undecodable undecodable
  | tooGreat tooGreat => exact .tooGreat (h tooGreat)

theorem Value.fails_toInt (v : Value) : Fails (Misread (v.isInfinite = true)) v.toInt := by
  unfold toInt
  split
  case h_4 => exact .fault (.tooGreat rfl)
  case h_7 => exact .fault (.tooGreat rfl)
  case h_9 => exact .orBadValue (.undecodable rfl) _
  case h_10 => exact .ite (.orBadValue (.undecodable rfl) _) (.fault (.undecodable rfl))
  all_goals first | exact .ok _ | exact .fault (.undecodable rfl)

theorem Value.fails_toCount (v : Value) : Fails (Misread (v.isInfinite = true)) v.toCount := by
  unfold toCount orElse
  split
  · exact v.fails_toInt
  · exact .ok 0

theorem LoginReply.fails_ofValue (v : Value) : Fails (Misread (HasInfinite v)) (ofValue v) := by
  unfold ofValue Value.entries
  split
  · next fields =>
    -- the numbers are read one after the other, and the first that fails ends the reading
    have count (name : String) (h : name ∈ counts) :
        Fails (Misread (HasInfinite (.object fields))) (Value.countField fields name) :=
      (Value.fails_toCount _).mono fun _ hf => hf.imp fun infinite => ⟨fields, rfl, name, h, infinite⟩
    refine .okBind (.bind (count "sessionId" (by decide)) fun _ => ?_)
    refine .bind (count "protocolVersion" (by decide)) fun _ => ?_
    exact .bind (count "maxDataMessageSize" (by decide)) fun _ => .ok _
  · exact .error (.reported rfl)

theorem KeyReply.fails_ofValue (v : Value) : Fails (Misread False) (ofValue v) := by
  unfold ofValue Value.entries
  split
  · exact .ok _
  · exact .error (.reported rfl)

/-- What the use of a reply may end in: a failure that is reported, or a fault that tells of a
number too great, if there is one. -/
def Misused (tooGreat : Prop) (f : Failure) : Prop :=
  f.isReported = true ∨ f = .fault .tooGreat ∧ tooGreat

namespace Session

theorem fails_data (reply : List (Value × Value)) : Fails (·.isReported = true) (data reply) := by
  unfold data
  refine .ite (.ok _) ?_
  split
  · exact .error rfl
  · exact .error rfl

/-- Of the faults in reading a record only that of a number too great is not reported. -/
theorem fails_answer {read : Value → Attempt α} {P : Value → Prop}
    (h : ∀ v, Fails (Misread (P v)) (read v)) (reply : List (Value × Value)) :
    Fails (Misused (∃ v, data reply = .ok v ∧ P v)) (answer read reply) := by
  unfold answer
  have hd := fails_data reply
  cases e : data reply with
  | error f => exact .error (.inl (hd f e))
  | ok v =>
    have hv := h v
    refine .okBind ?_
    split
    · next x hx =>
      split
      · exact .error (.inl rfl)
      · next other =>
        cases hv _ hx with
        | reported reported => cases reported
        | undecodable undecodable => exact absurd undecodable other
        | tooGreat tooGreat => exact .fault (.inr ⟨rfl, v, rfl, tooGreat⟩)
    · next other =>
      intro f hf
      cases hv f hf with
      | reported reported => exact .inl reported
      | undecodable => exact absurd hf (other _)
      | tooGreat => exact absurd hf (other _)

theorem fails_answer_reported {read : Value → Attempt α} (h : ∀ v, Fails (Misread False) (read v))
    (reply : List (Value × Value)) : Fails (·.isReported = true) (answer read reply) :=
  (fails_answer h reply).mono fun _ hf => hf.resolve_right fun ⟨_, _, _, tooGreat⟩ => tooGreat

end Session

namespace Login

theorem fails_ofReply (key : KeyReply) :
    Fails (fun f => f = .fault .badValue ∨ f = .fault .tooGreat ∧ key.HasNegative)
      (Key.ofReply key) := by
  unfold Key.ofReply
  cases hm : readHex? key.modulus with
  | none => exact .error (.inl rfl)
  | some modulus =>
    cases he : readHex? key.exponent with
    | none => exact .error (.inl rfl)
    | some exponent =>
      show Fails _ (if modulus < 0 ∨ exponent < 0 then _ else _)
      split
      · next negative => exact .fault (.inr ⟨rfl, modulus, exponent, hm, he, negative⟩)
      · exact .ite (.ok _) (.fault (.inl rfl))

theorem fails_encryptPassword (padding : Padding) (password : String) (key : KeyReply) :
    Fails (Misused key.HasNegative) (encryptPassword padding password key) := by
  have seals : Fails (fun f => f = .fault .badValue ∨ f = .fault .tooGreat ∧ key.HasNegative)
      (sealPassword padding password key) :=
    .bind (fails_ofReply key) fun _ => .bind (.orBadValue (.inl rfl) _) fun _ => .ok _
  unfold encryptPassword
  split
  · exact .error (.inl rfl)
  · next other =>
    -- a bad value was reported, so only a number too great is left
    intro f hf
    obtain rfl | tooGreat := seals f hf
    · exact absurd hf other
    · exact .inr tooGreat

/-- The second request is an object, unless the key cannot be used. -/
theorem fails_request (padding : Padding) (station : Workstation) (c : Config)
    (key : Option KeyReply) :
    Fails (Misused (∃ reply, key = some reply ∧ reply.HasNegative))
      (request padding station c key).2 := by
  have given : Fails (Misused (∃ reply, key = some reply ∧ reply.HasNegative))
      (credentials padding c key).2 := by
    unfold credentials
    split
    · exact .ok _
    · split
      · exact .ok _
      · cases key with
        | none => exact .error (.inl rfl)
        | some reply =>
          refine .map _ ((fails_encryptPassword padding c.password reply).mono fun f hf => ?_)
          exact hf.imp_right fun ⟨e, negative⟩ => ⟨e, reply, rfl, negative⟩
  exact .map _ given

theorem isObject_request {padding : Padding} {station : Workstation} {c : Config}
    {key : Option KeyReply} {v : Value} (h : (request padding station c key).2 = .ok v) :
    ∃ fields, v = .object fields := by
  have e : (request padding station c key).2 = (credentials padding c key).2.map fun fields =>
      .ofFields (introduction station c ++ fields) := rfl
  rw [e] at h
  cases hc : (credentials padding c key).2 with
  | error f => rw [hc] at h; cases h
  | ok fields => rw [hc] at h; cases h; exact ⟨_, rfl⟩

theorem isObject_opening (c : Config) : ∃ fields, opening c = .object fields := by
  unfold opening
  split
  · exact ⟨_, rfl⟩
  · exact ⟨_, rfl⟩

end Login

/-! ### The conversation -/

/-- The last that a client did on its channel was to read a reply; its session is what it was. -/
def Client.HasRead (codec : Codec) (c c' : Client ω) (reply : List (Value × Value)) : Prop :=
  ∃ news bs, c.Goes c' c.session (news ++ [.received bs]) ∧
    Session.decode codec c.session.compressing bs = .ok reply

namespace Client.HasRead

variable {codec : Codec} {c₁ c₂ c₃ : Client ω} {reply : List (Value × Value)}

theorem after {news : List Happening} (goes : c₁.Goes c₂ c₁.session news)
    (h : HasRead codec c₂ c₃ reply) : HasRead codec c₁ c₃ reply := by
  obtain ⟨more, bs, goes', decoded⟩ := h
  rw [goes.session] at goes' decoded
  refine ⟨news ++ more, bs, ?_, decoded⟩
  rw [List.append_assoc]
  exact goes.trans goes'

theorem steady (h : HasRead codec c₁ c₂ reply) (hs : c₂.Steady c₃) : HasRead codec c₁ c₃ reply := by
  obtain ⟨news, bs, goes, decoded⟩ := h
  exact ⟨news, bs, goes.steady hs, decoded⟩

end Client.HasRead

namespace Session

open ExaWire.Action
open Client (HasRead)

variable {c : Client ω}

theorem Answers.hasRead {request : Value} {payload bs : Bytes} {entries : List (Value × Value)}
    {c' : Client ω} (h : Answers env request c payload bs entries c') :
    c.HasRead env.codec c' entries := ⟨[.sent ⟨payload, _⟩], bs, h.goes, h.decoded⟩

/-- A reply of a login with a number too great to be used. -/
inductive IsTooGreat (reply : List (Value × Value)) : Prop
  | key {key} (read : answer KeyReply.ofValue reply = .ok key) (negative : key.HasNegative)
  | info {v} (read : data reply = .ok v) (infinite : LoginReply.HasInfinite v)

/-- How the two exchanges of a login end. -/
inductive Conversed (env : Environment ω) (c : Client ω) : Attempt LoginReply → Client ω → Prop
  | told {reply info c'} (last : c.HasRead env.codec c' reply)
      (read : answer LoginReply.ofValue reply = .ok info) : Conversed env c (.ok info) c'
  | failed {f c'} (reported : f.isReported = true) : Conversed env c (.error f) c'
  | overflown {reply c'} (last : c.HasRead env.codec c' reply) (h : IsTooGreat reply) :
    Conversed env c (.error (.fault .tooGreat)) c'

/-- The second exchange, with the key that the first one gave. -/
theorem ends_introduce {c₀ : Client ω} {news : List Happening} (config : Config)
    (key : Option KeyReply) (scope : Option ScopeId) (goes : c₀.Goes c c₀.session news)
    (given : ∀ k, key = some k → ∃ reply, c₀.HasRead env.codec c reply ∧
      answer KeyReply.ofValue reply = .ok k) :
    Ends (introduce env config key scope) c (Conversed env c₀) := by
  have quiet := c.steady_annotate (Login.request env.padding env.station config key).1
  refine .update (.ofAttempt (fun request hr => ?_) fun f hf => ?_)
  · obtain ⟨fields, rfl⟩ := Login.isObject_request hr
    refine (ends_send_told fields _ scope _).mono ?_
    rintro r c' (exchange | exchange | ⟨-, h, read⟩)
    · exact .failed (Failure.isReported_of_exchange exchange)
    · exact .failed (Failure.isReported_of_exchange exchange)
    · have last : c₀.HasRead env.codec c' _ := h.hasRead.after (goes.steady quiet)
      cases r with
      | ok info => exact .told last read
      | error f =>
        obtain reported | ⟨rfl, v, data, infinite⟩ := fails_answer LoginReply.fails_ofValue _ f read
        · exact .failed reported
        · exact .overflown last (.info data infinite)
  · obtain reported | ⟨rfl, k, rfl, negative⟩ := Login.fails_request _ _ _ _ f hf
    · exact .failed reported
    · obtain ⟨reply, last, read⟩ := given k rfl
      exact .overflown (last.steady quiet) (.key read negative)

/-- The two exchanges of a login end as the second does, or as the first if that fails; only a
login without a token asks for a key. -/
theorem ends_converse_of {scope : Option ScopeId} {A : Attempt Unit → Client ω → Prop}
    {K : Attempt KeyReply → Client ω → Prop} {Q : Attempt LoginReply → Client ω → Prop}
    (announces : Ends (send env (Login.opening c.session.config) noData scope) c A)
    (asks : Ends (send env (Login.opening c.session.config) KeyReply.ofValue scope) c K)
    (announced : ∀ c₁, A (.ok ()) c₁ → Ends (introduce env c.session.config none scope) c₁ Q)
    (told : ∀ key c₁, K (.ok key) c₁ → Ends (introduce env c.session.config (some key) scope) c₁ Q)
    (unannounced : ∀ f c₁, A (.error f) c₁ → Q (.error f) c₁)
    (untold : ∀ f c₁, K (.error f) c₁ → Q (.error f) c₁) : Ends (converse env scope) c Q := by
  rw [converse_eq]
  refine .session (.ite (fun _ => ?_) fun _ => ?_)
  · exact announces.bind (fun _ c₁ h => announced c₁ h) unannounced
  · have keyed : Ends (some <$> send env (Login.opening c.session.config) KeyReply.ofValue scope) c
        fun r c' => ∃ r', K r' c' ∧ r = r'.map some := asks.map fun r c' h => ⟨r, h, rfl⟩
    refine keyed.bind ?_ ?_
    · rintro _ c₁ ⟨_ | key, h, ⟨⟩⟩
      exact told key c₁ h
    · rintro f c₁ ⟨_ | key, h, ⟨⟩⟩
      exact untold f c₁ h

theorem ends_converse (scope : Option ScopeId) (c : Client ω) :
    Ends (converse env scope) c (Conversed env c) := by
  let opening := Login.opening c.session.config
  have opens {α : Type} (read : Value → Attempt α) :
      Ends (send env opening read scope) c (Told env opening read c) := by
    obtain ⟨fields, e⟩ : ∃ fields, opening = .object fields := Login.isObject_opening _
    rw [e]
    exact ends_send_told fields read scope c
  -- an opening that comes to nothing is reported, whatever is read from its reply
  have fails {α : Type} {read : Value → Attempt α} (reads : ∀ v, Fails (Misread False) (read v))
      (f : Failure) (c₁ : Client ω) (h : Told env opening read c (.error f) c₁) :
      Conversed env c (.error f) c₁ := by
    obtain exchange | exchange | ⟨-, -, read⟩ := h
    · exact .failed (Failure.isReported_of_exchange exchange)
    · exact .failed (Failure.isReported_of_exchange exchange)
    · exact .failed (fails_answer_reported reads _ f read)
  refine ends_converse_of (opens noData) (opens KeyReply.ofValue) ?_ ?_ (fails fun _ => .ok ())
    (fails KeyReply.fails_ofValue)
  · -- a token needs no key
    rintro c₁ (_ | _ | ⟨-, h, -⟩)
    exact ends_introduce _ none scope h.goes fun _ hk => nomatch hk
  · rintro key c₁ (_ | _ | ⟨-, h, read⟩)
    refine ends_introduce _ (some key) scope h.goes ?_
    rintro _ ⟨⟩
    exact ⟨_, h.hasRead, read⟩

/-! ### The login -/

/-- How a login begins a session: it is open and knows what the reply told, or it was retired
again, or a number was too great and the session is left as it was opened. -/
inductive Begun (env : Environment ω) (c : Client ω) : Attempt LoginReply → Client ω → Prop
  | opened {reply info c₁ c'} (last : HasRead env.codec { c with session := c.session.opened } c₁ reply)
      (read : answer LoginReply.ofValue reply = .ok info)
      (goes : c₁.Goes c'
        { c₁.session with compressing := c₁.session.config.compression, info := some info } []) :
    Begun env c (.ok info) c'
  | undone {f c₁ c'} (tells : tellsItself f = true) (detached : Detached env c₁ c') :
    Begun env c (.error f) c'
  | escaped {reply c'} (last : HasRead env.codec { c with session := c.session.opened } c' reply)
      (h : IsTooGreat reply) : Begun env c (.error (.fault .tooGreat)) c'

theorem tellsItself_wrapped (f : Failure) :
    tellsItself (if tellsItself f then f
      else .told .handshake ("failed to login: " ++ f.message) (.failure f)) = true := by
  split
  · next h => exact h
  · rfl

theorem ends_login_begun (scope : Option ScopeId) (c : Client ω) :
    Ends (login env scope) c (Begun env c) := by
  refine .setSession (.attempt (ends_converse scope _) ?_)
  rintro r c₁ (⟨last, read⟩ | reported | ⟨last, h⟩)
  · refine .setSession (.note (.pure (.opened last read ?_)))
    exact ⟨rfl, rfl, by simp [Client.trace, Client.annotate]⟩
  · refine .ite (fun other => ?_) fun _ => ?_
    · simp [reported] at other
    · refine (ends_shutdown env c₁).bind ?_ ?_
      · rintro _ c₂ ⟨-, detached⟩
        exact .throw (.undone (tellsItself_wrapped _) detached)
      · rintro _ c₂ ⟨⟨⟩, -⟩
  · refine .ite (fun _ => .throw (.escaped last h)) fun other => ?_
    exact absurd rfl other

end Session

end ExaWire
