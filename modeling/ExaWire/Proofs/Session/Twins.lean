/-
ExaWire/Proofs/Session/Twins.lean

Two clients that differ in compression alone.

The settings of one ask for compression and those of the other do not; everything else
is the same.  Their far ends are alike as well: they fail together, are ready together,
and let the caller cancel the same scopes.  A far end answers in kind: once it took a
binary frame, its replies are deflated.

Two clients are *twins* if the one is the other but for its flags, its far end and what
is deflated in its record.  What is below a session is shown here to keep twins twins:
writing a frame, polling and reading, and closing the channel.
-/
import ExaWire.Proofs.Parallel
import ExaWire.Proofs.Session.Trace
import ExaWire.Session.Login
import Mathlib.Data.List.Forall2

namespace ExaWire

open Network

variable {ω₁ ω₂ α β : Type}

/-! ### Requests and frames -/

/-- Bytes as they cross a channel: deflated if it is compressed. -/
def Codec.dress (codec : Codec) (compressing : Bool) (bs : Bytes) : Bytes :=
  if compressing then codec.deflate bs else bs

/-- An object with the flag for compression among its attributes. -/
def Command.flagged (before behind earlier later : List (Value × Value)) (flag : Bool) : Value :=
  .object (before ++ (.text "attributes",
    .object (earlier ++ (.text "compressionEnabled", .bool flag) :: later)) :: behind)

/-- Two requests of twins: the same, or as long as neither compresses the same but for the flag. -/
inductive Command.Twin : Bool → Value → Value → Prop
  | same {compressing} (request : Value) : Twin compressing request request
  | flagged (before behind earlier later : List (Value × Value)) :
    Twin false (flagged before behind earlier later false) (flagged before behind earlier later true)

/-- Two frames of twins: texts that carry requests of twins, or a text and a binary frame that
holds it deflated. -/
inductive Network.Frame.Twin (codec : Codec) : Bool → Frame → Frame → Prop
  | plain {request₁ request₂ : Value} {payload₁ payload₂ : Bytes}
      (requests : Command.Twin false request₁ request₂)
      (encoded₁ : Session.encode codec false request₁ = .ok payload₁)
      (encoded₂ : Session.encode codec false request₂ = .ok payload₂) :
    Twin codec false ⟨payload₁, false⟩ ⟨payload₂, false⟩
  | deflated (payload : Bytes) : Twin codec true ⟨payload, false⟩ ⟨codec.deflate payload, true⟩

namespace Json

/-- Whether something could be had, and if not, why not. -/
def verdict (x : Attempt α) : Attempt Unit := x.map fun _ => ()

theorem verdict_bind {x y : Attempt α} {f g : α → Attempt β} (h : verdict x = verdict y)
    (hf : ∀ a b, verdict (f a) = verdict (g b)) : verdict (x >>= f) = verdict (y >>= g) := by
  cases x with
  | error e =>
    cases y with
    | error e' =>
      cases h
      rfl
    | ok b => cases h
  | ok a =>
    cases y with
    | error e' => cases h
    | ok b => exact hf a b

/-- Whether an object can be written depends on each of its values only as far as that can be
written. -/
theorem verdict_writeEntries {v₁ v₂ : Value} (h : verdict (write v₁) = verdict (write v₂))
    (key : Value) (before behind : List (Value × Value)) :
    verdict (writeEntries (before ++ (key, v₁) :: behind)) =
      verdict (writeEntries (before ++ (key, v₂) :: behind)) := by
  induction before with
  | nil =>
    simp only [List.nil_append, writeEntries]
    refine verdict_bind rfl fun _ _ => verdict_bind h fun _ _ => ?_
    exact verdict_bind rfl fun _ _ => rfl
  | cons entry before ih =>
    simp only [List.cons_append, writeEntries]
    refine verdict_bind rfl fun _ _ => verdict_bind rfl fun _ _ => ?_
    exact verdict_bind ih fun _ _ => rfl

theorem verdict_write_object {v₁ v₂ : Value} (h : verdict (write v₁) = verdict (write v₂))
    (key : Value) (before behind : List (Value × Value)) :
    verdict (write (.object (before ++ (key, v₁) :: behind))) =
      verdict (write (.object (before ++ (key, v₂) :: behind))) := by
  simp only [write]
  exact verdict_bind (verdict_writeEntries h key before behind) fun _ _ => rfl

end Json

namespace Command

variable {compressing : Bool} {request₁ request₂ : Value}

theorem Twin.verdict_write (h : Twin compressing request₁ request₂) :
    Json.verdict (Json.write request₁) = Json.verdict (Json.write request₂) := by
  cases h with
  | same => rfl
  | flagged before behind earlier later =>
    unfold Command.flagged
    have attributes := Json.verdict_write_object (show Json.verdict (Json.write (.bool false)) =
      Json.verdict (Json.write (.bool true)) from rfl) (.text "compressionEnabled") earlier later
    exact Json.verdict_write_object attributes _ before behind

/-- The value of a key is found whatever another key stands for. -/
theorem lookup_replaced {key : String} {other v₁ v₂ : Value} (h : other.isText key = false)
    (before behind : List (Value × Value)) :
    Value.lookup? key (before ++ (other, v₁) :: behind) =
      Value.lookup? key (before ++ (other, v₂) :: behind) := by
  induction before with
  | nil => simp [Value.lookup?, h]
  | cons entry before ih =>
    obtain ⟨k, v⟩ := entry
    simp only [List.cons_append, Value.lookup?, ih]

theorem Twin.member_command (h : Twin compressing request₁ request₂) :
    request₂.member "command" = request₁.member "command" := by
  cases h with
  | same => rfl
  | flagged before behind =>
    simp only [Command.flagged, Value.member]
    rw [lookup_replaced rfl before behind]

theorem Twin.usable (h : Twin compressing request₁ request₂) (s : Session) :
    s.usable request₂ = s.usable request₁ := by
  simp only [Session.usable, h.member_command]

theorem Twin.nameOf (h : Twin compressing request₁ request₂) :
    Session.nameOf request₂ = Session.nameOf request₁ := by
  cases h with
  | same => rfl
  | flagged before behind =>
    simp only [Command.flagged, Session.nameOf]
    rw [lookup_replaced rfl before behind]

/-- Requests of twins are refused alike, or both can be written. -/
theorem Twin.verdict_encode (codec : Codec) (h : Twin compressing request₁ request₂) :
    Json.verdict (Session.encode codec false request₁) =
      Json.verdict (Session.encode codec false request₂) := by
  have verdict := h.verdict_write
  simp only [Session.encode, h.member_command]
  generalize Json.write request₁ = written₁, Json.write request₂ = written₂ at verdict ⊢
  cases written₁ with
  | error f₁ =>
    cases written₂ with
    | error f₂ =>
      cases verdict
      rfl
    | ok cs₂ => cases verdict
  | ok cs₁ =>
    cases written₂ with
    | error f₂ => cases verdict
    | ok cs₂ => rfl

end Command

/-- A request is written the same way on every session, and then deflated if that compresses. -/
theorem Session.encode_dress (codec : Codec) (compressing : Bool) (request : Value) :
    encode codec compressing request = (encode codec false request).map (codec.dress compressing) := by
  unfold encode
  split
  · cases compressing <;> rfl
  · split
    · cases request.member "command" <;> rfl
    · rfl
  · rfl

/-- Requests of twins are refused for the same reason, or written as frames of twins. -/
theorem Command.Twin.encode (codec : Codec) {compressing : Bool} {request₁ request₂ : Value}
    (h : Twin compressing request₁ request₂) :
    (∃ f, Session.encode codec false request₁ = .error f ∧
      Session.encode codec compressing request₂ = .error f) ∨
    ∃ payload₁ payload₂, Session.encode codec false request₁ = .ok payload₁ ∧
      Session.encode codec compressing request₂ = .ok payload₂ ∧
      Frame.Twin codec compressing ⟨payload₁, false⟩ ⟨payload₂, compressing⟩ := by
  have verdict := h.verdict_encode codec
  rw [Session.encode_dress codec compressing]
  cases e₁ : Session.encode codec false request₁ with
  | error f =>
    cases e₂ : Session.encode codec false request₂ with
    | ok payload₂ =>
      rw [e₁, e₂] at verdict
      cases verdict
    | error f' =>
      rw [e₁, e₂] at verdict
      cases verdict
      exact .inl ⟨f, rfl, rfl⟩
  | ok payload₁ =>
    cases e₂ : Session.encode codec false request₂ with
    | error f =>
      rw [e₁, e₂] at verdict
      cases verdict
    | ok payload₂ =>
      refine .inr ⟨payload₁, codec.dress compressing payload₂, rfl, rfl, ?_⟩
      cases compressing with
      | false => exact .plain h e₁ e₂
      | true =>
        cases h
        cases e₁.symm.trans e₂
        exact .deflated payload₁

/-! ### Far ends -/

/-- An environment with another far end. -/
def Environment.onWire (env : Environment ω₁) (wire : Wire ω₂) : Environment ω₂ where
  wire := wire
  codec := env.codec
  padding := env.padding
  station := env.station
  directory := env.directory
  order := env.order
  files := env.files
  meanwhile := env.meanwhile

namespace Network

/-- Two turns that went alike: what the second one gave is a function of what the first one gave. -/
structure Turn.Twin (f : Except String α → Except String α) (alike : ω₁ → ω₂ → Prop)
    (turn₁ : Turn ω₁ α) (turn₂ : Turn ω₂ α) : Prop where
  result : turn₂.result = f turn₁.result
  cancellations : turn₂.cancellations = turn₁.cancellations
  intruders : turn₂.intruders = turn₁.intruders
  rest : alike turn₁.rest turn₂.rest

/-- Two far ends are alike, and the second one answers in kind.  `alike kind` relates their
states, where `kind` tells whether the second one took a binary frame last. -/
structure Mirrors (codec : Codec) (wire₁ : Wire ω₁) (wire₂ : Wire ω₂)
    (alike : Bool → ω₁ → ω₂ → Prop) : Prop where
  send {kind compressing : Bool} {frame₁ frame₂ : Frame} {w₁ : ω₁} {w₂ : ω₂}
    (frames : Frame.Twin codec compressing frame₁ frame₂) (h : alike kind w₁ w₂) :
    Turn.Twin id (alike compressing) (wire₁.send frame₁ w₁) (wire₂.send frame₂ w₂)
  poll {kind : Bool} {w₁ : ω₁} {w₂ : ω₂} (h : alike kind w₁ w₂) :
    Turn.Twin id (alike kind) (wire₁.poll w₁) (wire₂.poll w₂)
  receive {kind : Bool} {w₁ : ω₁} {w₂ : ω₂} (h : alike kind w₁ w₂) :
    Turn.Twin (Except.map (Option.map (codec.dress kind))) (alike kind) (wire₁.receive w₁)
      (wire₂.receive w₂)
  close {kind : Bool} {w₁ : ω₁} {w₂ : ω₂} (h : alike kind w₁ w₂) :
    Turn.Twin id (alike kind) (wire₁.close w₁) (wire₂.close w₂)
  isAttached {kind : Bool} {w₁ : ω₁} {w₂ : ω₂} (h : alike kind w₁ w₂) :
    wire₂.isAttached w₂ = wire₁.isAttached w₁
  buffered {kind : Bool} {w₁ : ω₁} {w₂ : ω₂} (h : alike kind w₁ w₂) :
    0 < wire₂.buffered w₂ ↔ 0 < wire₁.buffered w₁

/-- A turn of a far end that also remembers the kind of the frame that it took last. -/
def Turn.remember (turn : Turn ω₁ α) (kind : Bool) : Turn (ω₁ × Bool) α :=
  { turn with rest := (turn.rest, kind) }

/-- A far end that does what another one does and answers in kind. -/
def Wire.inKind (codec : Codec) (wire : Wire ω₁) : Wire (ω₁ × Bool) where
  send frame w := (wire.send frame w.1).remember frame.binary
  poll w := (wire.poll w.1).remember w.2
  receive w :=
    { (wire.receive w.1).remember w.2 with
      result := (wire.receive w.1).result.map (Option.map (codec.dress w.2)) }
  close w := (wire.close w.1).remember w.2
  isAttached w := wire.isAttached w.1
  buffered w := wire.buffered w.1
  patience w := wire.patience w.1
  patience_lt w h := wire.patience_lt w.1 h

/-- Whatever a far end does that does not look at the frames it takes, there is one that does the
same in kind. -/
theorem mirrors_inKind (codec : Codec) {wire : Wire ω₁}
    (blind : ∀ frame other w, wire.send frame w = wire.send other w) :
    Mirrors codec wire (wire.inKind codec) fun kind w₁ w₂ => w₂ = (w₁, kind) where
  send {kind compressing frame₁ frame₂ w₁ w₂} frames h := by
    obtain rfl := h
    have binary : frame₂.binary = compressing := by cases frames <;> rfl
    show Turn.Twin id _ _ ((wire.send frame₂ w₁).remember frame₂.binary)
    rw [binary, blind frame₂ frame₁]
    exact ⟨rfl, rfl, rfl, rfl⟩
  poll h := by
    obtain rfl := h
    exact ⟨rfl, rfl, rfl, rfl⟩
  receive h := by
    obtain rfl := h
    exact ⟨rfl, rfl, rfl, rfl⟩
  close h := by
    obtain rfl := h
    exact ⟨rfl, rfl, rfl, rfl⟩
  isAttached h := by
    obtain rfl := h
    rfl
  buffered h := by
    obtain rfl := h
    rfl

end Network

/-- Two clients to be compared: the first one's environment, the second one's far end and how it is
like the first one's, whether the second one compresses, and what had happened before. -/
structure Pairing (ω₁ ω₂ : Type) where
  env : Environment ω₁
  wire : Wire ω₂
  alike : Bool → ω₁ → ω₂ → Prop
  mirrors : Mirrors env.codec env.wire wire alike
  lossless : ∀ bs, env.codec.inflate? (env.codec.deflate bs) = some bs
  compressing : Bool
  past₁ : List Happening
  past₂ : List Happening

/-- The environment of the second client. -/
def Pairing.twinEnv (P : Pairing ω₁ ω₂) : Environment ω₂ := P.env.onWire P.wire

/-! ### Clients -/

/-- Whether something crosses the channel. -/
def Happening.crosses : Happening → Bool
  | .sent _ | .received _ => true
  | _ => false

/-- What happens to twins: frames of twins are sent, one reply is received as it is and the other
one dressed, and everything else is the same for both. -/
inductive Happening.Twin (codec : Codec) (compressing : Bool) : Happening → Happening → Prop
  | sent {frame₁ frame₂ : Frame} (h : Frame.Twin codec compressing frame₁ frame₂) :
    Twin codec compressing (.sent frame₁) (.sent frame₂)
  | received (bs : Bytes) :
    Twin codec compressing (.received bs) (.received (codec.dress compressing bs))
  | aside {x : Happening} (h : x.crosses = false) : Twin codec compressing x x

/-- Whether a session neither compresses nor is set to. -/
structure Session.Plain (s : Session) : Prop where
  unset : s.config.compression = false
  uncompressed : s.compressing = false

/-- The twin of a session: set to compress, and compressing or not. -/
def Session.twin (compressing : Bool) (s : Session) : Session :=
  { s with config := { s.config with compression := true }, compressing }

/-- The twin of a client, with its own far end and record. -/
def Client.twin (compressing : Bool) (wire : ω₂) (happenings : List Happening) (c : Client ω₁) :
    Client ω₂ where
  session := c.session.twin compressing
  link := c.link
  wire := wire
  scopes := c.scopes
  endpoint := c.endpoint
  errand := c.errand
  dials := c.dials
  happenings := happenings
  notes := c.notes

namespace Pairing

variable (P : Pairing ω₁ ω₂)

/-- The same has happened to both clients since the past. -/
def News (hs₁ hs₂ : List Happening) : Prop :=
  ∃ news₁ news₂, hs₁ = P.past₁ ++ news₁ ∧ hs₂ = P.past₂ ++ news₂ ∧
    List.Forall₂ (Happening.Twin P.env.codec P.compressing) news₁ news₂

/-- Two clients are twins, and the second one's far end answers in a kind. -/
structure Twins (kind : Bool) (c₁ : Client ω₁) (c₂ : Client ω₂) : Prop where
  plain : c₁.session.Plain
  wires : P.alike kind c₁.wire c₂.wire
  news : P.News c₁.happenings c₂.happenings
  /-- everything else is the same -/
  twin : c₂ = c₁.twin P.compressing c₂.wire c₂.happenings

/-- Two clients are twins. -/
def Twinned (c₁ : Client ω₁) (c₂ : Client ω₂) : Prop := ∃ kind, P.Twins kind c₁ c₂

variable {P} {kind : Bool} {c₁ : Client ω₁} {c₂ : Client ω₂} {hs₁ hs₂ more₁ more₂ : List Happening}

theorem News.append (h : P.News hs₁ hs₂)
    (hm : List.Forall₂ (Happening.Twin P.env.codec P.compressing) more₁ more₂) :
    P.News (hs₁ ++ more₁) (hs₂ ++ more₂) := by
  obtain ⟨news₁, news₂, rfl, rfl, hn⟩ := h
  exact ⟨news₁ ++ more₁, news₂ ++ more₂, List.append_assoc .., List.append_assoc ..,
    List.rel_append hn hm⟩

/-- What does not cross the channel happens to both alike. -/
theorem twins_aside {hs : List Happening} (h : ∀ x ∈ hs, x.crosses = false) (codec : Codec)
    (compressing : Bool) : List.Forall₂ (Happening.Twin codec compressing) hs hs :=
  List.forall₂_same.2 fun x hx => .aside (h x hx)

theorem twins_network (events : List Event) {codec : Codec} {compressing : Bool} :
    List.Forall₂ (Happening.Twin codec compressing) (events.map .network) (events.map .network) :=
  twins_aside (List.forall_mem_map.2 fun _ _ => rfl) codec compressing

namespace Twins

theorem twinned (h : P.Twins kind c₁ c₂) : P.Twinned c₁ c₂ := ⟨kind, h⟩

theorem session (h : P.Twins kind c₁ c₂) : c₂.session = c₁.session.twin P.compressing :=
  congrArg Client.session h.twin

theorem link (h : P.Twins kind c₁ c₂) : c₂.link = c₁.link := congrArg Client.link h.twin

theorem scopes (h : P.Twins kind c₁ c₂) : c₂.scopes = c₁.scopes := congrArg Client.scopes h.twin

theorem setSession (h : P.Twins kind c₁ c₂) {f₁ f₂ : Session → Session}
    (plain : ∀ s : Session, s.Plain → (f₁ s).Plain)
    (twin : ∀ s, f₂ (s.twin P.compressing) = (f₁ s).twin P.compressing) :
    P.Twins kind { c₁ with session := f₁ c₁.session } { c₂ with session := f₂ c₂.session } where
  plain := plain _ h.plain
  wires := h.wires
  news := h.news
  twin := by
    rw [h.session, twin]
    exact congrArg (fun c => { c with session := (f₁ c₁.session).twin P.compressing }) h.twin

theorem annotate (h : P.Twins kind c₁ c₂) (notes : List Note) :
    P.Twins kind (c₁.annotate notes) (c₂.annotate notes) :=
  ⟨h.plain, h.wires, h.news, congrArg (Client.annotate notes) h.twin⟩

theorem record (h : P.Twins kind c₁ c₂)
    (hm : List.Forall₂ (Happening.Twin P.env.codec P.compressing) more₁ more₂) :
    P.Twins kind (c₁.record more₁) (c₂.record more₂) :=
  ⟨h.plain, h.wires, h.news.append hm, congrArg (Client.record more₂) h.twin⟩

theorem after (h : P.Twins kind c₁ c₂) {f : Except String α → Except String α} {kind' : Bool}
    {turn₁ : Turn ω₁ α} {turn₂ : Turn ω₂ α} (ht : Turn.Twin f (P.alike kind') turn₁ turn₂) :
    P.Twins kind' (c₁.after turn₁) (c₂.after turn₂) where
  plain := h.plain
  wires := ht.rest
  news := by
    have grant : c₂.session.grant = c₁.session.grant := by rw [h.session]; rfl
    show P.News _ (c₂.happenings ++ List.replicate turn₂.intruders (.intruded c₂.session.grant))
    rw [grant, ht.intruders]
    refine h.news.append (twins_aside (fun x hx => ?_) _ _)
    rw [List.eq_of_mem_replicate hx]
    rfl
  twin := by
    rw [congrArg (Client.after turn₂) h.twin]
    simp only [Client.after, Client.twin, ht.cancellations]

theorem poll (h : P.Twins kind c₁ c₂) (scope : ScopeId) :
    (c₁.poll scope).1 = (c₂.poll scope).1 ∧ P.Twins kind (c₁.poll scope).2 (c₂.poll scope).2 := by
  unfold Client.poll
  rw [h.scopes]
  exact ⟨rfl, h.plain, h.wires, h.news,
    congrArg (fun c => { c with scopes := (c₁.scopes.poll scope).2 }) h.twin⟩

theorem advance (h : P.Twins kind c₁ c₂) (step : Import.Progress → Import.Progress) :
    P.Twins kind (c₁.advance step) (c₂.advance step) := by
  have errand : c₂.errand = c₁.errand := congrArg Client.errand h.twin
  have endpoint : c₂.endpoint = c₁.endpoint := congrArg Client.endpoint h.twin
  unfold Client.advance
  rw [errand, endpoint, h.scopes]
  cases c₁.errand with
  | none => exact h
  | some errand =>
    cases c₁.endpoint with
    | none => exact h
    | some endpoint =>
      let p := step { errand, endpoint, scopes := c₁.scopes }
      refine ⟨h.plain, h.wires, h.news.append (twins_network p.events), ?_⟩
      exact congrArg (fun c : Client ω₂ => { c with
        errand := some p.errand
        endpoint := some p.endpoint
        scopes := p.scopes
        happenings := c.happenings ++ p.events.map Happening.network
        notes := c.notes ++ p.notes }) h.twin

end Twins

end Pairing

/-! ### Channels -/

namespace Channel

open Pairing

variable {P : Pairing ω₁ ω₂} {kind : Bool} {c₁ : Client ω₁} {c₂ : Client ω₂}

theorem agree_send (h : P.Twins kind c₁ c₂) {frame₁ frame₂ : Frame}
    (frames : Frame.Twin P.env.codec P.compressing frame₁ frame₂) :
    Agree (send P.env frame₁) (send P.twinEnv frame₂) c₁ c₂ fun _ => P.Twins P.compressing := by
  have turns := P.mirrors.send frames h.wires
  have after := h.after turns
  have result : (P.wire.send frame₂ c₂.wire).result = (P.env.wire.send frame₁ c₁.wire).result :=
    turns.result
  unfold Agree send
  show _ ∧ _
  dsimp only [twinEnv, Environment.onWire]
  rw [result]
  rcases (P.env.wire.send frame₁ c₁.wire).result with text | ⟨⟩
  · exact ⟨by rw [after.link], after⟩
  · exact ⟨rfl, after.record (.cons (.sent frames) .nil)⟩

/-- What the second client receives is what the first one receives, dressed. -/
theorem twins_receive (h : P.Twins P.compressing c₁ c₂) :
    (receive P.twinEnv c₂).1 = (receive P.env c₁).1.map (P.env.codec.dress P.compressing) ∧
      P.Twins P.compressing (receive P.env c₁).2 (receive P.twinEnv c₂).2 := by
  have turns := P.mirrors.receive h.wires
  have after := h.after turns
  have result := turns.result
  unfold receive
  dsimp only [twinEnv, Environment.onWire]
  rw [result]
  rcases (P.env.wire.receive c₁.wire).result with text | - | bs
  · exact ⟨by rw [after.link]; rfl, after⟩
  · exact ⟨rfl, after⟩
  · exact ⟨rfl, after.record (.cons (.received bs) .nil)⟩

theorem twins_ask (h : P.Twins kind c₁ c₂) :
    (ask P.env c₁).1 = (ask P.twinEnv c₂).1 ∧
      P.Twins kind (ask P.env c₁).2 (ask P.twinEnv c₂).2 := by
  have turns := P.mirrors.poll h.wires
  have after := h.after turns
  have result : (P.wire.poll c₂.wire).result = (P.env.wire.poll c₁.wire).result := turns.result
  unfold ask
  dsimp only [twinEnv, Environment.onWire]
  rw [result]
  rcases (P.env.wire.poll c₁.wire).result with text | ready
  · exact ⟨by rw [h.link], after⟩
  · exact ⟨rfl, after⟩

theorem twins_poll (h : P.Twins kind c₁ c₂) :
    (poll P.env c₁).1 = (poll P.twinEnv c₂).1 ∧
      P.Twins kind (poll P.env c₁).2 (poll P.twinEnv c₂).2 := by
  have isAttached : P.twinEnv.wire.isAttached c₂.wire = P.env.wire.isAttached c₁.wire :=
    P.mirrors.isAttached h.wires
  have buffered : 0 < P.twinEnv.wire.buffered c₂.wire ↔ 0 < P.env.wire.buffered c₁.wire :=
    P.mirrors.buffered h.wires
  unfold poll
  rw [h.link]
  cases c₁.link with
  | bare => exact twins_ask h
  | framed url isClosed =>
    simp only [isAttached, buffered]
    split
    · split
      · exact ⟨rfl, h⟩
      · exact twins_ask h
    · exact ⟨rfl, h⟩

theorem parallel_close : Parallel P.Twinned (close P.env) (close P.twinEnv) := by
  rintro c₁ c₂ ⟨kind, h⟩
  have gone : List.Forall₂ (Happening.Twin P.env.codec P.compressing) [.detached] [.detached] :=
    .cons (.aside rfl) .nil
  unfold Agree close
  rw [h.link]
  dsimp only [twinEnv, Environment.onWire]
  rcases e : c₁.link with _ | ⟨url, isClosed⟩
  · exact ⟨rfl, kind, (h.after (P.mirrors.close h.wires)).record gone⟩
  · cases isClosed with
    | true => exact ⟨rfl, kind, h⟩
    | false =>
      have turns := P.mirrors.close h.wires
      have shut : P.Twins kind { c₁ with link := .framed url true }
          { c₂ with link := .framed url true } :=
        ⟨h.plain, h.wires, h.news, congrArg (fun c => { c with link := .framed url true }) h.twin⟩
      have closed := (shut.after turns).record gone
      have result : (P.wire.close c₂.wire).result = (P.env.wire.close c₁.wire).result :=
        turns.result
      dsimp only
      rw [result]
      rcases (P.env.wire.close c₁.wire).result with text | ⟨⟩
      · exact ⟨rfl, kind, closed.annotate _⟩
      · exact ⟨rfl, kind, closed⟩

end Channel

end ExaWire
