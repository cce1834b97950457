/-
ExaWire/Proofs/Script/Compressed.lean

A compressed session does what a plain one does.

Two dialogues are made of the same calls, one on a client whose settings ask for
compression and one on a client whose settings do not, with far ends that are alike.
After every call the clients are twins and the callers hold the same objects, so the
next call goes alike as well: it gives the same, it leaves the sessions in the same
state, and each frame of the compressed session holds, deflated, what the plain
session's frame says.
-/
import ExaWire.Proofs.Script.Course
import ExaWire.Proofs.Session.Together

namespace ExaWire.Script

open Network Pairing

variable {ω ω₁ ω₂ o α : Type} {P : Pairing ω₁ ω₂}

/-! ### Calls -/

/-- Two dialogues with twins: the callers hold the same objects. -/
structure Dialogue.Twins (P : Pairing ω₁ ω₂) (d₁ : Dialogue ω₁) (d₂ : Dialogue ω₂) : Prop where
  clients : P.Twinned d₁.client d₂.client
  hasSession₁ : d₁.hasSession = true
  hasSession₂ : d₂.hasSession = true
  objects : d₂.objects = d₁.objects
  row : d₂.row = d₁.row

open Dialogue (Twins)

namespace Stage

theorem parallel_ofAttempt (x : Attempt α) :
    Parallel (Twins P) (ofAttempt x : Stage ω₁ α) (ofAttempt x : Stage ω₂ α) := by
  cases x with
  | ok a => exact .pure a
  | error f => exact .throw _

theorem agree_act {a₁ : Action ω₁ α} {a₂ : Action ω₂ α} {d₁ : Dialogue ω₁} {d₂ : Dialogue ω₂}
    (h : Twins P d₁ d₂)
    (ha : Agree a₁ a₂ d₁.client d₂.client fun _ => P.Twinned) :
    Agree (act a₁) (act a₂) d₁ d₂ fun _ => Twins P := by
  unfold Agree
  rw [act_apply h.hasSession₁, act_apply h.hasSession₂, ← ha.1]
  exact parallel_ofAttempt _ _ _ ⟨ha.2, h.hasSession₁, h.hasSession₂, h.objects, h.row⟩

theorem parallel_act {a₁ : Action ω₁ α} {a₂ : Action ω₂ α} (h : Parallel P.Twinned a₁ a₂) :
    Parallel (Twins P) (act a₁) (act a₂) :=
  fun _ _ hd => agree_act hd (h _ _ hd.clients)

theorem parallel_find (name : String) :
    Parallel (Twins P) (find name : Stage ω₁ Object) (find name : Stage ω₂ Object) := by
  refine .get fun d₁ d₂ h => ?_
  rw [h.objects]
  rcases d₁.objects.lookup name with _ | object
  · exact .throw h
  · exact .pure h

theorem parallel_forget (name : String) :
    Parallel (Twins P) (forget name : Stage ω₁ Unit) (forget name : Stage ω₂ Unit) := by
  intro d₁ d₂ h
  refine ⟨rfl, h.clients, h.hasSession₁, h.hasSession₂, ?_, h.row⟩
  exact congrArg (List.filter _) h.objects

theorem parallel_keep (name : String) (object : Object) :
    Parallel (Twins P) (keep name object : Stage ω₁ Unit) (keep name object : Stage ω₂ Unit) := by
  refine .bind (parallel_forget name) fun _ d₁ d₂ h => ?_
  refine ⟨rfl, h.clients, h.hasSession₁, h.hasSession₂, ?_, h.row⟩
  exact congrArg (List.cons (name, object)) h.objects

theorem parallel_unfit : Parallel (Twins P) (unfit : Stage ω₁ α) (unfit : Stage ω₂ α) :=
  parallel_ofAttempt _

theorem parallel_onKept (name : String) (wrap : o → Object) (x : o) {a₁ : Held o ω₁ α}
    {a₂ : Held o ω₂ α} (ha : Parallel (Beside P.Twinned) a₁ a₂) :
    Parallel (Twins P) (onKept name wrap x a₁) (onKept name wrap x a₂) := by
  refine .bind (parallel_act (.on x ha)) fun (result, x) => ?_
  exact .bind (parallel_keep _ _) fun _ => parallel_ofAttempt result

theorem parallel_onCursor (name : String) {a₁ : Held Cursor ω₁ α} {a₂ : Held Cursor ω₂ α}
    (ha : Parallel (Beside P.Twinned) a₁ a₂) :
    Parallel (Twins P) (onCursor name a₁) (onCursor name a₂) := by
  refine .bind (parallel_find name) fun object => ?_
  cases object with
  | cursor c => exact parallel_onKept name _ _ ha
  | statement | transaction => exact parallel_unfit

theorem parallel_onStatement (name : String) {a₁ : Held Prepared ω₁ α} {a₂ : Held Prepared ω₂ α}
    (ha : Parallel (Beside P.Twinned) a₁ a₂) :
    Parallel (Twins P) (onStatement name a₁) (onStatement name a₂) := by
  refine .bind (parallel_find name) fun object => ?_
  cases object with
  | statement p => exact parallel_onKept name _ _ ha
  | cursor | transaction => exact parallel_unfit

theorem parallel_onTransaction (name : String) {a₁ : Held Transaction ω₁ α}
    {a₂ : Held Transaction ω₂ α} (ha : Parallel (Beside P.Twinned) a₁ a₂) :
    Parallel (Twins P) (onTransaction name a₁) (onTransaction name a₂) := by
  refine .bind (parallel_find name) fun object => ?_
  cases object with
  | transaction t => exact parallel_onKept name _ _ ha
  | cursor | statement => exact parallel_unfit

theorem parallel_keepCursor (name : String) {make₁ : Stage ω₁ Cursor} {make₂ : Stage ω₂ Cursor}
    (hm : Parallel (Twins P) make₁ make₂) :
    Parallel (Twins P) (keepCursor name make₁) (keepCursor name make₂) := by
  refine .bind (parallel_forget name) fun _ => .bind hm fun cursor => ?_
  exact .bind (parallel_keep name _) fun _ => .pure _

theorem parallel_keepTransaction (name : String) {make₁ : Action ω₁ Transaction}
    {make₂ : Action ω₂ Transaction} (hm : Parallel P.Twinned make₁ make₂) :
    Parallel (Twins P) (keepTransaction name make₁) (keepTransaction name make₂) := by
  refine .bind (parallel_forget name) fun _ => .bind (parallel_act hm) fun t => ?_
  exact .bind (parallel_keep name _) fun _ => .pure _

theorem parallel_bodyOnOther (body : Body) :
    Parallel (Beside P.Twinned) (body.onOther : Held o ω₁ Unit) (body.onOther : Held o ω₂ Unit) := by
  cases body with
  | nothing => exact .pure _
  | interrupt | commit | rollback => exact .heldOfAttempt _

theorem parallel_bodyOnTransaction (body : Body) :
    Parallel (Beside P.Twinned) (body.onTransaction P.env) (body.onTransaction P.twinEnv) := by
  cases body with
  | nothing => exact .pure _
  | interrupt => exact .heldOfAttempt _
  | commit | rollback => exact Transaction.parallel_finish _

theorem parallel_guardObject (name : String) (body : Body) :
    Parallel (Twins P) (guardObject P.env name body) (guardObject P.twinEnv name body) := by
  refine .bind (parallel_find name) fun object => ?_
  cases object with
  | cursor c =>
    exact parallel_onKept name _ _
      (.heldGuarded (parallel_bodyOnOther _) fun _ => Cursor.parallel_close)
  | statement p =>
    exact parallel_onKept name _ _
      (.heldGuarded (parallel_bodyOnOther _) fun _ => Prepared.parallel_close)
  | transaction t =>
    exact parallel_onKept name _ _
      (.heldGuarded (parallel_bodyOnTransaction _) Transaction.parallel_leave)

theorem parallel_closeObject (name : String) :
    Parallel (Twins P) (closeObject P.env name) (closeObject P.twinEnv name) := by
  refine .bind (parallel_find name) fun object => ?_
  cases object with
  | cursor c => exact parallel_onKept name _ _ Cursor.parallel_close
  | statement p => exact parallel_onKept name _ _ Prepared.parallel_close
  | transaction => exact parallel_unfit

end Stage

open Stage

/-- An operation on twins goes alike, but for the flags that it may ask for. -/
theorem Call.parallel_perform {call : Call} (operates : call.isOperation) (unflagged : call ≠ .flags)
    (name : String) (scope : Option ScopeId) :
    Parallel (Twins P) (call.perform P.env name scope) (call.perform P.twinEnv name scope) := by
  unfold Call.perform
  cases call with
  | connect | connectTo | login => cases operates
  | flags => exact absurd rfl unflagged
  | send request kind =>
    cases kind with
    | none => exact parallel_act (.bind (parallel_request _ _ _) fun _ => .pure _)
    | some kind => exact parallel_act (.bind (parallel_request _ _ _) fun _ => .pure _)
  | info =>
    refine parallel_act (parallel_session fun s _ => ?_)
    have info : (s.twin P.compressing).info = s.info := rfl
    rw [info]
    cases s.info with
    | none => exact .pure _
    | some told => exact .pure _
  | execute sql values =>
    exact parallel_act (.bind (Connection.parallel_execute _ _ _) fun _ => .pure _)
  | query sql values => exact parallel_keepCursor name (parallel_act (Connection.parallel_query _ _ _))
  | prepare sql =>
    refine .bind (parallel_forget name) fun _ => ?_
    refine .bind (parallel_act (Connection.parallel_prepare _ _)) fun _ => ?_
    exact .bind (parallel_keep name _) fun _ => .pure _
  | begin => exact parallel_keepTransaction name Connection.parallel_begin
  | run sql values => exact parallel_act (.bind (Statement.parallel_run _ _ _) fun _ => .pure _)
  | once sql values =>
    refine parallel_act (.bind (Statement.parallel_once _ _ _) fun _ => ?_)
    exact .bind (.ofAttempt _) fun _ => .pure _
  | closeSession => exact parallel_act (.bind Session.parallel_closeSession fun _ => .pure _)
  | guardSession =>
    exact parallel_act (.bind (.guarded (.pure _) Session.parallel_closeSession) fun _ => .pure _)
  | close => exact parallel_act (.bind Connection.parallel_close fun _ => .pure _)
  | guardConnection sql values =>
    refine parallel_act (.bind (.guarded (Connection.parallel_execute _ _ _) ?_) fun _ => .pure _)
    exact Connection.parallel_close
  | startTransaction =>
    exact parallel_keepTransaction name (parallel_session fun s _ => .pure (Transaction.on s))
  | commit | rollback =>
    exact parallel_onTransaction name (.bind (Transaction.parallel_finish _) fun _ => .pure _)
  | fetchOne => exact parallel_onCursor name (.bind Cursor.parallel_next fun _ => .pure _)
  | fetchAll => exact parallel_onCursor name (.bind Cursor.parallel_rest fun _ => .pure _)
  | columnInfo => exact parallel_onCursor name (.bind .object fun _ => .pure _)
  | nextInto row =>
    refine .bind (parallel_onCursor name (Cursor.parallel_nextInto row)) ?_
    rintro ⟨row, result⟩
    refine .bind (fun d₁ d₂ h => ?_) fun _ => .bind (parallel_ofAttempt result) fun _ => .pure _
    exact ⟨rfl, h.clients, h.hasSession₁, h.hasSession₂, h.objects, rfl⟩
  | lastRow =>
    refine .get fun d₁ d₂ h => ?_
    rw [h.row]
    exact .pure h
  | queryPrepared cursor values =>
    refine .bind (parallel_onStatement name (Prepared.parallel_query _ _)) fun _ => ?_
    exact .bind (parallel_keep cursor _) fun _ => .pure _
  | executePrepared values =>
    exact parallel_onStatement name (.bind (Prepared.parallel_execute _ _) fun _ => .pure _)
  | countPrepared values =>
    refine parallel_onStatement name (.bind (Prepared.parallel_execute _ _) fun _ => ?_)
    exact .bind (.heldOfAttempt _) fun _ => .pure _
  | bind values =>
    refine parallel_onStatement name (.bind .object fun _ => ?_)
    exact .bind (.heldOfAttempt _) fun _ => .pure _
  | closeObject => exact .bind (parallel_closeObject name) fun _ => .pure _
  | guardObject body => exact .bind (parallel_guardObject name body) fun _ => .pure _

/-! ### Moves -/

/-- Two answers to a call are alike: they are the same, but whoever asks for the flags is told which
session compresses. -/
inductive Call.Alike (compressing : Bool) :
    Call → Except Trouble Given → Except Trouble Given → Prop
  | same {call : Call} (h : call ≠ .flags) (answer : Except Trouble Given) :
    Alike compressing call answer answer
  | flags (closed autocommit live : Bool) : Alike compressing .flags
      (.ok (.value (.list [.bool closed, .bool autocommit, .bool false, .bool live])))
      (.ok (.value (.list [.bool closed, .bool autocommit, .bool compressing, .bool live])))

/-- Two moves are alike: the same call, before which the far ends stay alike and the scopes become
the same. -/
structure Move.Twin (alike : Bool → ω₁ → ω₂ → Prop) (m₁ : Move ω₁) (m₂ : Move ω₂) : Prop where
  call : m₂.call = m₁.call
  name : m₂.name = m₁.name
  scope : m₂.scope = m₁.scope
  wires {kind : Bool} {w₁ : ω₁} {w₂ : ω₂} (h : alike kind w₁ w₂) (scopes : Scopes) :
    alike kind (m₁.meanwhile (w₁, scopes)).1 (m₂.meanwhile (w₂, scopes)).1
  scopes {kind : Bool} {w₁ : ω₁} {w₂ : ω₂} (h : alike kind w₁ w₂) (scopes : Scopes) :
    (m₂.meanwhile (w₂, scopes)).2 = (m₁.meanwhile (w₁, scopes)).2

/-- A move at a far end that answers in kind. -/
def Move.inKind (m : Move ω) : Move (ω × Bool) where
  call := m.call
  name := m.name
  scope := m.scope
  meanwhile := fun ((wire, kind), scopes) =>
    let (wire, scopes) := m.meanwhile (wire, scopes)
    ((wire, kind), scopes)

theorem Move.twin_inKind (m : Move ω) :
    Move.Twin (fun kind w₁ w₂ => w₂ = (w₁, kind)) m m.inKind where
  call := rfl
  name := rfl
  scope := rfl
  wires h _ := by
    obtain rfl := h
    rfl
  scopes h _ := by
    obtain rfl := h
    rfl

theorem Move.Twin.meet {m₁ : Move ω₁} {m₂ : Move ω₂} (hm : Move.Twin P.alike m₁ m₂)
    {c₁ : Client ω₁} {c₂ : Client ω₂} (h : P.Twinned c₁ c₂) :
    P.Twinned (m₁.meet c₁) (m₂.meet c₂) := by
  obtain ⟨kind, h⟩ := h
  have wires := hm.wires h.wires c₁.scopes
  have scopes := hm.scopes h.wires c₁.scopes
  unfold Move.meet
  rw [h.scopes]
  refine ⟨kind, h.plain, wires, h.news, ?_⟩
  dsimp only
  rw [scopes]
  exact congrArg (fun c => { c with
    wire := (m₂.meanwhile (c₂.wire, c₁.scopes)).1
    scopes := (m₁.meanwhile (c₁.wire, c₁.scopes)).2 }) h.twin

/-- A call for the flags changes nothing. -/
theorem perform_flags {env : Environment ω} {name : String} {scope : Option ScopeId}
    {d : Dialogue ω} (hs : d.hasSession = true) :
    Call.flags.perform env name scope d = (.ok (.value (.list
      [.bool d.client.session.isClosed, .bool d.client.session.config.autocommit,
        .bool d.client.session.compressing, .bool !d.client.session.isClosed])), d) := by
  have e : Call.flags.perform env name scope d = act (do
      let s ← Action.session
      return Given.value (.list
        [.bool s.isClosed, .bool s.config.autocommit, .bool s.compressing, .bool !s.isClosed])) d := rfl
  rw [e, act_apply hs]
  rfl

/-- An operation on twins gives the same, and they stay twins. -/
theorem Call.alike_perform {call : Call} (operates : call.isOperation) (name : String)
    (scope : Option ScopeId) {d₁ : Dialogue ω₁} {d₂ : Dialogue ω₂} (h : Twins P d₁ d₂) :
    call.Alike P.compressing (call.perform P.env name scope d₁).1 (call.perform P.twinEnv name scope d₂).1 ∧
      Twins P (call.perform P.env name scope d₁).2 (call.perform P.twinEnv name scope d₂).2 := by
  by_cases flags : call = .flags
  · obtain ⟨kind, twins⟩ := h.clients
    rw [flags, perform_flags h.hasSession₁, perform_flags h.hasSession₂, twins.session,
      twins.plain.uncompressed]
    exact ⟨.flags _ _ _, h⟩
  · obtain ⟨same, after⟩ := parallel_perform operates flags name scope _ _ h
    rw [← same]
    exact ⟨.same flags _, after⟩

theorem Dialogue.twins_make {d₁ : Dialogue ω₁} {d₂ : Dialogue ω₂} {m₁ : Move ω₁} {m₂ : Move ω₂}
    (h : Twins P d₁ d₂) (hm : Move.Twin P.alike m₁ m₂) (operates : m₁.call.isOperation) :
    m₁.call.Alike P.compressing (d₁.make P.env m₁).1 (d₂.make P.twinEnv m₂).1 ∧
      Twins P (d₁.make P.env m₁).2 (d₂.make P.twinEnv m₂).2 := by
  unfold Dialogue.make
  rw [hm.call, hm.name, hm.scope]
  exact Call.alike_perform operates m₁.name m₁.scope
    ⟨hm.meet h.clients, h.hasSession₁, h.hasSession₂, h.objects, h.row⟩

/-- A move that was made: its call, what that gave, and the session afterwards. -/
structure Made where
  call : Call
  answer : Except Trouble Given
  session : Session

/-- The moves of a dialogue as they were made. -/
def Dialogue.made (env : Environment ω) (d : Dialogue ω) : List (Move ω) → List Made
  | [] => []
  | m :: moves =>
    let (answer, d) := d.make env m
    ⟨m.call, answer, d.client.session⟩ :: d.made env moves

/-- Two moves that went alike: the same call gave the same, and the sessions are in the same state. -/
structure Made.Alike (compressing : Bool) (made₁ made₂ : Made) : Prop where
  call : made₂.call = made₁.call
  answers : made₁.call.Alike compressing made₁.answer made₂.answer
  sessions : made₂.session = made₁.session.twin compressing

/-- A dialogue with twins goes alike, and they stay twins. -/
theorem Dialogue.twins_after {d₁ : Dialogue ω₁} {d₂ : Dialogue ω₂} {moves₁ : List (Move ω₁)}
    {moves₂ : List (Move ω₂)} (h : Twins P d₁ d₂)
    (moves : List.Forall₂ (Move.Twin P.alike) moves₁ moves₂)
    (operate : ∀ m ∈ moves₁, m.call.isOperation = true) :
    List.Forall₂ (Made.Alike P.compressing) (d₁.made P.env moves₁) (d₂.made P.twinEnv moves₂) ∧
      Twins P (d₁.after P.env moves₁) (d₂.after P.twinEnv moves₂) := by
  induction moves generalizing d₁ d₂ with
  | nil => exact ⟨.nil, h⟩
  | cons hm _ ih =>
    obtain ⟨operates, operate⟩ := List.forall_mem_cons.1 operate
    obtain ⟨alike, made⟩ := twins_make h hm operates
    obtain ⟨alikes, after⟩ := ih made operate
    obtain ⟨kind, twins⟩ := made.clients
    exact ⟨.cons ⟨hm.call, alike, twins.session⟩ alikes, after⟩

/-! ### Courses -/

theorem frames_eq (c : Client ω) : c.frames = Happening.frames c.happenings := by
  unfold Client.frames Client.trace Happening.frames
  rw [List.filterMap_filter]
  congr 1
  funext x
  cases x <;> rfl

theorem frames_aside {x : Happening} (h : x.crosses = false) (hs : List Happening) :
    Happening.frames (x :: hs) = Happening.frames hs := by
  cases x with
  | sent | received => cases h
  | detached | intruded | network | opened | released => rfl

/-- What happened to twins holds frames of twins. -/
theorem frames_twins {codec : Codec} {compressing : Bool} {hs₁ hs₂ : List Happening}
    (h : List.Forall₂ (Happening.Twin codec compressing) hs₁ hs₂) :
    List.Forall₂ (Frame.Twin codec compressing) (Happening.frames hs₁) (Happening.frames hs₂) := by
  induction h with
  | nil => exact .nil
  | cons hx _ ih =>
    cases hx with
    | sent frames => exact .cons frames ih
    | received bs => exact ih
    | aside h =>
      rw [frames_aside h, frames_aside h]
      exact ih

/-- A course on a compressed session refines that on a plain one. -/
structure Refines (env₁ : Environment ω₁) (env₂ : Environment ω₂) (c₁ : Client ω₁) (c₂ : Client ω₂)
    (scope : Option ScopeId) (moves₁ : List (Move ω₁)) (moves₂ : List (Move ω₂)) : Prop where
  /-- both logins give the same -/
  login : (Session.login env₁ scope c₁).1 = (Session.login env₂ scope c₂).1
  /-- and leave the sessions in the same state; the second one compresses from then on if it was let in -/
  begun : (Session.login env₂ scope c₂).2.session =
    (Session.login env₁ scope c₁).2.session.twin (Session.login env₁ scope c₁).1.toBool
  /-- no frame of a login is compressed, and they are the same but for the flag -/
  greeting : List.Forall₂ (Frame.Twin env₁.codec false) (Session.login env₁ scope c₁).2.frames
    (Session.login env₂ scope c₂).2.frames
  /-- every move gives the same and leaves the sessions in the same state -/
  made : List.Forall₂ (Made.Alike (Session.login env₁ scope c₁).1.toBool)
    (Dialogue.made env₁ { client := (Session.login env₁ scope c₁).2 } moves₁)
    (Dialogue.made env₂ { client := (Session.login env₂ scope c₂).2 } moves₂)
  /-- and each later frame holds, deflated if the second session was let in, what the other one says -/
  frames : ∃ news₁ news₂,
    (course env₁ c₁ scope moves₁).client.frames = (Session.login env₁ scope c₁).2.frames ++ news₁ ∧
    (course env₂ c₂ scope moves₂).client.frames = (Session.login env₂ scope c₂).2.frames ++ news₂ ∧
    List.Forall₂ (Frame.Twin env₁.codec (Session.login env₁ scope c₁).1.toBool) news₁ news₂

/-- Whatever the settings, the channels and the scopes do and whatever calls are made, a session that
compresses refines one that does not, if what is deflated can be inflated again. -/
theorem course_compressed (env : Environment ω₁) (wire : Wire ω₂) {alike : Bool → ω₁ → ω₂ → Prop}
    (mirrors : Mirrors env.codec env.wire wire alike)
    (lossless : ∀ bs, env.codec.inflate? (env.codec.deflate bs) = some bs) (config : Config)
    (url : Option String) {w₁ : ω₁} {w₂ : ω₂} (begins : alike false w₁ w₂) (scopes : Scopes)
    (scope : Option ScopeId) {moves₁ : List (Move ω₁)} {moves₂ : List (Move ω₂)}
    (moves : List.Forall₂ (Move.Twin alike) moves₁ moves₂)
    (operate : ∀ m ∈ moves₁, m.call.isOperation = true) :
    Refines env (env.onWire wire)
      (onChannel { config with compression := false } url w₁ scopes)
      (onChannel { config with compression := true } url w₂ scopes) scope moves₁ moves₂ := by
  let P : Pairing ω₁ ω₂ := {
    env, wire, alike, mirrors, lossless
    compressing := false
    past₁ := []
    past₂ := [] }
  let c₁ := onChannel { config with compression := false } url w₁ scopes
  let c₂ := onChannel { config with compression := true } url w₂ scopes
  have twins : P.Twinned c₁ c₂ :=
    ⟨false, ⟨rfl, rfl⟩, begins, ⟨[], [], rfl, rfl, .nil⟩, rfl⟩
  obtain ⟨same, ⟨greeting₁, greeting₂, e₁, e₂, greeting⟩, kind, begun⟩ :=
    Session.agree_login (P := P) rfl scope twins
  -- from here on the clients are compared as they are after the login
  let Q := P.onward (Session.login env scope c₁).1.toBool (Session.login env scope c₁).2
    (Session.login (env.onWire wire) scope c₂).2
  have started : Dialogue.Twins Q { client := (Session.login env scope c₁).2 }
      { client := (Session.login (env.onWire wire) scope c₂).2 } :=
    ⟨⟨kind, begun⟩, rfl, rfl, rfl, rfl⟩
  obtain ⟨made, after⟩ := Dialogue.twins_after started moves operate
  obtain ⟨news₁, news₂, e₁', e₂', news⟩ := after.clients.news
  refine ⟨same, begun.session, ?_, made, Happening.frames news₁, Happening.frames news₂, ?_, ?_,
    frames_twins news⟩
  · rw [frames_eq, frames_eq]
    have greeted := frames_twins greeting
    rw [← List.nil_append greeting₁, ← List.nil_append greeting₂] at greeted
    rwa [← e₁, ← e₂] at greeted
  · rw [frames_eq, frames_eq, ← Happening.frames_append]
    exact congrArg Happening.frames e₁'
  · rw [frames_eq, frames_eq, ← Happening.frames_append]
    exact congrArg Happening.frames e₂'

/-- A login, a statement and a farewell, where what is deflated is turned around: two text frames,
and then two binary ones. -/
theorem turnedAround_refines :
    let codec : Codec := ⟨List.reverse, fun bs => some bs.reverse⟩
    let env := { cannedEnvironment with codec }
    let replies := cannedLogin [cannedReply ["null"]]
    let moves : List (Move (List Bytes)) :=
      [{ call := .send (Command.closeResultSet []) none }, { call := .closeSession }]
    let c₁ := onChannel { cannedConfig with compression := false } none replies []
    let c₂ := onChannel { cannedConfig with compression := true } none (replies, false) []
    (course (env.onWire (canned.inKind codec)) c₂ none (moves.map Move.inKind)).client.frames.map
        (·.binary) = [false, false, true, true] ∧
      Refines env (env.onWire (canned.inKind codec)) c₁ c₂ none moves (moves.map Move.inKind) := by
  intro codec env replies moves c₁ c₂
  have mirrors : Mirrors codec canned (canned.inKind codec) _ := mirrors_inKind codec fun _ _ _ => rfl
  have lossless (bs : Bytes) : codec.inflate? (codec.deflate bs) = some bs :=
    congrArg some (List.reverse_reverse bs)
  have twins : List.Forall₂ (Move.Twin fun kind w₁ w₂ => w₂ = (w₁, kind)) moves
      (moves.map Move.inKind) :=
    List.forall₂_map_right_iff.2 (List.forall₂_same.2 fun m _ => m.twin_inKind)
  have operate : ∀ m ∈ moves, m.call.isOperation = true := by simp [moves, Call.isOperation]
  refine ⟨by decide +kernel, ?_⟩
  exact course_compressed env _ mirrors lossless cannedConfig none rfl [] none twins operate

end ExaWire.Script
