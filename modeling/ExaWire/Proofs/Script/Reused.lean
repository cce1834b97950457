/-
ExaWire/Proofs/Script/Reused.lean

A handle that is released is never released again, whatever is done around its object.

A dialogue holds a statement or a cursor.  Once a move has closed it and the server has
acknowledged that, the object stays closed as long as it is held, and no move that closes it
does anything.  That is where the care ends: a call that executes a closed statement, or
reads on a closed cursor, goes on as before, and asks the server for a handle that it does
not hold any more.  These are the only frames that are still written on behalf of the object.
-/
import ExaWire.Proofs.Released
import ExaWire.Proofs.Script.Holding

namespace ExaWire.Script

open Network Session Stage
open Client (Writes)

variable {ω o : Type} {env : Environment ω} {x : String} {object : Object} {h : Handle}
  {d : Dialogue ω} {m : Move ω}

/-! ### Objects with a handle -/

/-- What the server holds for an object. -/
def Object.handle : Object → Option Handle
  | .cursor r => some (.resultSet r.handle)
  | .statement p => some (.statement p.handle)
  | .transaction _ => none

/-- Whether an object is closed. -/
def Object.isClosed : Object → Bool
  | .cursor r => r.isClosed
  | .statement p => p.isClosed
  | .transaction _ => false

/-- Whether an object is a cursor that has received all its rows. -/
def Object.isComplete : Object → Bool
  | .cursor r => r.total ≤ r.fetched
  | _ => false

/-- The calls that close the object that they are made on. -/
def Call.releases : Call → Bool
  | .closeObject | .guardObject _ => true
  | _ => false

/-- The calls that may use the handle of the object that they are made on. -/
def Call.uses : Call → Bool
  | .queryPrepared _ _ | .executePrepared _ | .countPrepared _ => true
  | .fetchOne | .fetchAll | .nextInto _ => true
  | _ => false

/-- A dialogue that holds a closed object. -/
structure Dialogue.HoldsClosed (x : String) (h : Handle) (object : Object) (d : Dialogue ω) :
    Prop where
  holds : d.Holds x object
  handle : object.handle = some h
  isClosed : object.isClosed = true

open Dialogue (HoldsClosed)

/-! ### Calls on an object -/

/-- A block that is guarded by an object which is no transaction does only what its end does. -/
theorem ends_guarded_onOther (body : Body) {leave : Held o ω Unit} {s : o × Client ω}
    {R : o × Client ω → Prop} (ends : Ends leave s fun _ t => R t) :
    Ends (Held.guarded body.onOther fun _ => leave) s fun _ t => R t := by
  have still : Ends (body.onOther : Held o ω Unit) s fun _ t => t = s := by
    cases body with
    | _ => rfl
  refine .heldAttempt still ?_
  rintro r _ rfl
  exact ends.bind (fun _ _ left => left) fun _ _ left => left

/-- What a call comes to on the statement that it is made on. -/
theorem Call.ends_statement {call : Call} {p : Prepared} {scope : Option ScopeId}
    {R : Prepared × Client ω → Prop} (holds : d.Holds x (.statement p))
    (suits : call.suits (.statement p) = true) (makes : call.makes x ≠ some x)
    (executes : call.uses = true → ∀ values,
      Ends (Prepared.execute env values scope) (p, d.client) fun _ t => R t)
    (queries : call.uses = true → ∀ values,
      Ends (Prepared.query env values scope) (p, d.client) fun _ t => R t)
    (closes : call.releases = true → Ends (Prepared.close env) (p, d.client) fun _ t => R t)
    (still : call.uses = false → call.releases = false → R (p, d.client)) :
    Ends (call.perform env x scope) d fun _ d' => ∃ p', d'.Holds x (.statement p') ∧ R (p', d'.client) := by
  have told {α : Type} {a : Held Prepared ω α} (acts : Ends a (p, d.client) fun _ t => R t) :
      Ends (onStatement x a) d fun _ d' => ∃ p', d'.Holds x (.statement p') ∧ R (p', d'.client) :=
    ends_find holds (ends_onKept holds.hasSession .statement acts)
  unfold Call.perform
  cases call with
  | queryPrepared cursor values =>
    refine (told (queries rfl values)).bind ?_ fun _ _ left => left
    rintro result d' ⟨p', holds', acts⟩
    have other : cursor ≠ x := fun e => makes (congrArg some e)
    exact ⟨p', spares_keep other (.cursor result) d' holds', acts⟩
  | executePrepared values =>
    exact told ((executes rfl values).bind (fun _ _ left => .pure left) fun _ _ left => left)
  | countPrepared values =>
    refine told ((executes rfl values).bind (fun _ _ left => ?_) fun _ _ left => left)
    exact .heldOfAttempt (fun _ _ => .pure left) fun _ _ => left
  | bind values =>
    exact told (.object (.heldOfAttempt (fun _ _ => .pure (still rfl rfl)) fun _ _ => still rfl rfl))
  | closeObject =>
    have acts : Ends (Stage.closeObject env x) d fun _ d' =>
        ∃ p', d'.Holds x (.statement p') ∧ R (p', d'.client) :=
      ends_find holds (ends_onKept holds.hasSession .statement (closes rfl))
    exact acts.bind (fun _ _ left => .pure left) fun _ _ left => left
  | guardObject body =>
    have acts : Ends (Stage.guardObject env x body) d fun _ d' =>
        ∃ p', d'.Holds x (.statement p') ∧ R (p', d'.client) :=
      ends_find holds (ends_onKept holds.hasSession .statement (ends_guarded_onOther body (closes rfl)))
    exact acts.bind (fun _ _ left => .pure left) fun _ _ left => left
  | _ => cases suits

/-- What a call comes to on the cursor that it is made on. -/
theorem Call.ends_cursor {call : Call} {r : Cursor} {scope : Option ScopeId}
    {R : Cursor × Client ω → Prop} (holds : d.Holds x (.cursor r))
    (suits : call.suits (.cursor r) = true)
    (reads : call.uses = true → ∀ t, Cursor.Reads env (r, d.client) t → R t)
    (closes : call.releases = true → Ends (Cursor.close env) (r, d.client) fun _ t => R t)
    (still : call.uses = false → call.releases = false → R (r, d.client)) :
    Ends (call.perform env x scope) d fun _ d' => ∃ r', d'.Holds x (.cursor r') ∧ R (r', d'.client) := by
  have told {α : Type} {a : Held Cursor ω α} (acts : Ends a (r, d.client) fun _ t => R t) :
      Ends (onCursor x a) d fun _ d' => ∃ r', d'.Holds x (.cursor r') ∧ R (r', d'.client) :=
    ends_find holds (ends_onKept holds.hasSession .cursor acts)
  unfold Call.perform
  cases call with
  | fetchOne =>
    refine told ((Cursor.reads_next (r, d.client)).bind (fun _ t read => .pure ?_) fun _ t read => ?_)
    · exact reads rfl t read
    · exact reads rfl t read
  | fetchAll =>
    refine told ((Cursor.reads_rest (r, d.client)).bind (fun _ t read => .pure ?_) fun _ t read => ?_)
    · exact reads rfl t read
    · exact reads rfl t read
  | columnInfo => exact told (.object (.pure (still rfl rfl)))
  | nextInto row =>
    have filled : Ends (Cursor.nextInto env row) (r, d.client) fun _ t => R t :=
      (Cursor.reads_nextInto row (r, d.client)).mono fun _ t read => reads rfl t read
    refine (told filled).bind ?_ fun _ _ left => left
    rintro ⟨row, result⟩ d' ⟨r', holds', acts⟩
    -- the row is kept beside the objects, and then the result is looked at
    have kept := spares_row row d' holds'
    cases result with
    | ok _ => exact ⟨r', kept, acts⟩
    | error _ => exact ⟨r', kept, acts⟩
  | closeObject =>
    have acts : Ends (Stage.closeObject env x) d fun _ d' =>
        ∃ r', d'.Holds x (.cursor r') ∧ R (r', d'.client) :=
      ends_find holds (ends_onKept holds.hasSession .cursor (closes rfl))
    exact acts.bind (fun _ _ left => .pure left) fun _ _ left => left
  | guardObject body =>
    have acts : Ends (Stage.guardObject env x body) d fun _ d' =>
        ∃ r', d'.Holds x (.cursor r') ∧ R (r', d'.client) :=
      ends_find holds (ends_onKept holds.hasSession .cursor (ends_guarded_onOther body (closes rfl)))
    exact acts.bind (fun _ _ left => .pure left) fun _ _ left => left
  | _ => cases suits

/-! ### One move -/

/-- A call that closes an object is one that all objects with a handle know. -/
theorem Call.of_releases {call : Call} (releases : call.releases = true) :
    call.uses = false ∧ (∀ name, call.makes name = none) ∧
      ∀ object : Object, object.handle.isSome = true → call.suits object = true := by
  cases call with
  | closeObject | guardObject =>
    refine ⟨rfl, fun _ => rfl, ?_⟩
    rintro (_ | _ | _) held
    · rfl
    · rfl
    · cases held
  | _ => cases releases

variable (env) in
/-- A move that closes a statement: the statement keeps its handle, and is closed if the release of
that is acknowledged; and if it was open and the closing succeeds, the release is acknowledged. -/
theorem Dialogue.Holds.closes_statement {p : Prepared} (holds : d.Holds x (.statement p))
    (name : m.name = x) (releases : m.call.releases = true) :
    ∃ p', (d.make env m).2.Holds x (.statement p') ∧ p'.handle = p.handle ∧
      (d.client.Acknowledged env (Handle.statement p.handle).release (d.make env m).2.client →
        p'.isClosed = true) ∧
      ((Prepared.close env (p, m.meet d.client)).1 = .ok () → p.isClosed = false →
        d.client.Acknowledged env (Handle.statement p.handle).release (d.make env m).2.client) := by
  subst name
  obtain ⟨unused, makes, suits⟩ := Call.of_releases releases
  have neverUses : ¬ m.call.uses = true := by simp [unused]
  have closes : Ends (m.call.perform env m.name m.scope) { d with client := m.meet d.client }
      fun _ d' => ∃ p', d'.Holds m.name (.statement p') ∧ p'.handle = p.handle ∧
        (d.client.Acknowledged env (Handle.statement p.handle).release d'.client →
          p'.isClosed = true) ∧
        ((Prepared.close env (p, m.meet d.client)).1 = .ok () → p.isClosed = false →
          d.client.Acknowledged env (Handle.statement p.handle).release d'.client) := by
    refine Call.ends_statement (R := fun t => t.1.handle = p.handle ∧
      (d.client.Acknowledged env (Handle.statement p.handle).release t.2 → t.1.isClosed = true) ∧
      ((Prepared.close env (p, m.meet d.client)).1 = .ok () → p.isClosed = false →
        d.client.Acknowledged env (Handle.statement p.handle).release t.2))
      (holds.met m) (suits _ rfl) (by simp [makes]) ?_ ?_ ?_ ?_
    · exact fun used => absurd used neverUses
    · exact fun used => absurd used neverUses
    · exact fun _ => Prepared.ends_close_acknowledged p (m.meet d.client)
    · exact fun _ other => absurd releases (by simp [other])
  exact closes

variable (env) in
/-- A move that closes a cursor: the cursor keeps its handle, and is closed; and if it was open, the
server held its rows and the closing succeeds, the release is acknowledged. -/
theorem Dialogue.Holds.closes_cursor {r : Cursor} (holds : d.Holds x (.cursor r)) (name : m.name = x)
    (releases : m.call.releases = true) :
    ∃ r', (d.make env m).2.Holds x (.cursor r') ∧ r'.handle = r.handle ∧ r'.isClosed = true ∧
      ((Cursor.close env (r, m.meet d.client)).1 = .ok () → r.isClosed = false → r.handle ≠ 0 →
        d.client.Acknowledged env (Handle.resultSet r.handle).release (d.make env m).2.client) := by
  subst name
  obtain ⟨unused, makes, suits⟩ := Call.of_releases releases
  have closes : Ends (m.call.perform env m.name m.scope) { d with client := m.meet d.client }
      fun _ d' => ∃ r', d'.Holds m.name (.cursor r') ∧ r'.handle = r.handle ∧ r'.isClosed = true ∧
        ((Cursor.close env (r, m.meet d.client)).1 = .ok () → r.isClosed = false → r.handle ≠ 0 →
          d.client.Acknowledged env (Handle.resultSet r.handle).release d'.client) := by
    refine Call.ends_cursor (R := fun t => t.1.handle = r.handle ∧ t.1.isClosed = true ∧
      ((Cursor.close env (r, m.meet d.client)).1 = .ok () → r.isClosed = false → r.handle ≠ 0 →
        d.client.Acknowledged env (Handle.resultSet r.handle).release t.2))
      (holds.met m) (suits _ rfl) ?_ ?_ ?_
    · exact fun used => absurd used (by simp [unused])
    · exact fun _ => Cursor.ends_close_acknowledged r (m.meet d.client)
    · exact fun _ other => absurd releases (by simp [other])
  exact closes

/-- A move that closes an object leaves it closed, if the server acknowledges the release of its
handle. -/
theorem Dialogue.Holds.released (holds : d.Holds x object) (handle : object.handle = some h)
    (name : m.name = x) (releases : m.call.releases = true)
    (acknowledged : d.client.Acknowledged env h.release (d.make env m).2.client) :
    ∃ object', (d.make env m).2.HoldsClosed x h object' := by
  cases object with
  | transaction => cases handle
  | cursor r =>
    cases handle
    obtain ⟨r', holds', same, closed, -⟩ := holds.closes_cursor env name releases
    exact ⟨_, holds', congrArg (some ∘ Handle.resultSet) same, closed⟩
  | statement p =>
    cases handle
    obtain ⟨p', holds', same, closed, -⟩ := holds.closes_statement env name releases
    exact ⟨_, holds', congrArg (some ∘ Handle.statement) same, closed acknowledged⟩

/-- What a move on a closed object comes to. -/
structure Reuses (env : Environment ω) (x : String) (h : Handle) (object : Object) (d : Dialogue ω)
    (m : Move ω) : Prop where
  holds : ∃ object', (d.make env m).2.HoldsClosed x h object' ∧
    (object.isComplete = true → object'.isComplete = true)
  /-- at most its handle is used once more, or such a use is aborted -/
  writes : d.client.Writes (Frame.Carries env.codec h.Asks) (d.make env m).2.client
  /-- nothing is done by any other call, in particular by one that closes the object -/
  still : m.call.uses = false → (d.make env m).2.client = m.meet d.client
  /-- nothing is asked for by a cursor that has received all its rows -/
  complete : object.isComplete = true → (d.make env m).2.client.frames = d.client.frames

theorem Dialogue.HoldsClosed.reuses (closed : d.HoldsClosed x h object) (own : m.IsOn x d)
    (makes : m.call.makes m.name ≠ some x) : Reuses env x h object d m := by
  obtain ⟨rfl, suits⟩ := closed.holds.isOn.1 own
  obtain ⟨holds, handle, isClosed⟩ := closed
  cases object with
  | transaction => cases handle
  | cursor r =>
    cases handle
    have moved : Ends (m.call.perform env m.name m.scope) { d with client := m.meet d.client }
        fun _ d' => ∃ r', d'.Holds m.name (.cursor r') ∧
          Cursor.Reads env (r, m.meet d.client) (r', d'.client) ∧
          (m.call.uses = false → (r', d'.client) = (r, m.meet d.client)) := by
      refine Call.ends_cursor (R := fun t => Cursor.Reads env (r, m.meet d.client) t ∧
        (m.call.uses = false → t = (r, m.meet d.client))) (holds.met m) suits ?_ ?_ ?_
      · exact fun used t reads => ⟨reads, fun unused => by simp [used] at unused⟩
      · intro _
        unfold Ends
        rw [Cursor.close_of_isClosed isClosed]
        exact ⟨refl_of (Cursor.Reads env) _, fun _ => rfl⟩
      · exact fun _ _ => ⟨refl_of (Cursor.Reads env) _, fun _ => rfl⟩
    obtain ⟨r', holds', reads, still⟩ := moved
    constructor
    case holds =>
      refine ⟨_, ⟨holds', congrArg (some ∘ Handle.resultSet) reads.handle, ?_⟩, ?_⟩
      · exact reads.isClosed.trans isClosed
      · intro complete
        exact decide_eq_true (reads.complete (of_decide_eq_true complete)).1
    case writes => exact reads.writes
    case still => exact fun unused => congrArg Prod.snd (still unused)
    case complete => exact fun complete => (reads.complete (of_decide_eq_true complete)).2
  | statement p =>
    cases handle
    have moved : Ends (m.call.perform env m.name m.scope) { d with client := m.meet d.client }
        fun _ d' => ∃ p', d'.Holds m.name (.statement p') ∧ (p' = p ∧
          (m.meet d.client).Writes (Frame.Carries env.codec (Handle.statement p.handle).Asks) d'.client) ∧
          (m.call.uses = false → d'.client = m.meet d.client) := by
      refine Call.ends_statement (R := fun t => (t.1 = p ∧
        (m.meet d.client).Writes (Frame.Carries env.codec (Handle.statement p.handle).Asks) t.2) ∧
        (m.call.uses = false → t.2 = m.meet d.client)) (holds.met m) suits makes ?_ ?_ ?_ ?_
      · intro used values
        refine (Prepared.ends_execute env values m.scope p _).mono ?_
        exact fun _ t ⟨same, asks⟩ => ⟨⟨same, asks.writes⟩, fun unused => by simp [used] at unused⟩
      · intro used values
        refine (Prepared.ends_query_writes env values m.scope p _).mono ?_
        exact fun _ t writes => ⟨writes, fun unused => by simp [used] at unused⟩
      · intro _
        unfold Ends
        rw [Prepared.close_of_isClosed isClosed]
        exact ⟨⟨rfl, refl_of (Writes _) _⟩, fun _ => rfl⟩
      · exact fun _ _ => ⟨⟨rfl, refl_of (Writes _) _⟩, fun _ => rfl⟩
    obtain ⟨p', holds', ⟨rfl, writes⟩, still⟩ := moved
    constructor
    case holds => exact ⟨_, ⟨holds', rfl, isClosed⟩, fun complete => complete⟩
    case writes => exact writes
    case still => exact still
    case complete => nofun

variable (env) in
/-- Whatever a move is made on, a closed object stays closed. -/
theorem Dialogue.HoldsClosed.make (closed : d.HoldsClosed x h object)
    (makes : m.call.makes m.name ≠ some x) :
    ∃ object', (d.make env m).2.HoldsClosed x h object' ∧
      (object.isComplete = true → object'.isComplete = true) := by
  by_cases own : m.IsOn x d
  · exact (closed.reuses own makes).holds
  · exact ⟨object, ⟨closed.holds.spared makes own, closed.handle, closed.isClosed⟩, id⟩

/-! ### The time after the release -/

variable (env) in
theorem Dialogue.HoldsClosed.after (closed : d.HoldsClosed x h object) {moves : List (Move ω)}
    (lives : ∀ m ∈ moves, m.call.makes m.name ≠ some x) :
    ∃ object', (d.after env moves).HoldsClosed x h object' := by
  induction moves generalizing d object with
  | nil => exact ⟨object, closed⟩
  | cons m moves ih =>
    obtain ⟨makes, others⟩ := List.forall_mem_cons.1 lives
    obtain ⟨object', closed', -⟩ := closed.make env makes
    exact ih closed' others

/-- The frames of the time after the release. -/
structure Leftover (env : Environment ω) (x : String) (h : Handle) (object : Object)
    (moves : List (Move ω)) (frames : List Frame) : Prop where
  /-- each uses the handle once more, or aborts such a use; none releases it -/
  asks : ∀ frame ∈ frames, frame.Carries env.codec h.Asks
  /-- there are none unless a call uses the handle -/
  unused : (∀ m ∈ moves, m.name = x → m.call.uses = false) → frames = []
  /-- there are none for a cursor that has received all its rows -/
  complete : object.isComplete = true → frames = []

theorem Dialogue.HoldsClosed.leftover (closed : d.HoldsClosed x h object) {moves : List (Move ω)}
    (lives : ∀ m ∈ moves, m.call.makes m.name ≠ some x) :
    Leftover env x h object moves (d.framesOn env x moves) := by
  induction moves generalizing d object with
  | nil => exact ⟨by simp [framesOn], fun _ => rfl, fun _ => rfl⟩
  | cons m moves ih =>
    obtain ⟨makes, others⟩ := List.forall_mem_cons.1 lives
    obtain ⟨object', closed', complete'⟩ := closed.make env makes
    have later := ih closed' others
    by_cases own : m.IsOn x d
    case neg =>
      rw [framesOn_of_not_isOn own]
      constructor
      case asks => exact later.asks
      case unused => exact fun none => later.unused (List.forall_mem_cons.1 none).2
      case complete => exact fun complete => later.complete (complete' complete)
    case pos =>
      have reuses : Reuses env x h object d m := closed.reuses own makes
      obtain ⟨news, frames, asks⟩ := reuses.writes
      have silent (same : (d.make env m).2.client.frames = d.client.frames) : news = [] := by
        rw [frames] at same
        exact List.append_right_eq_self.1 same
      rw [framesOn_of_isOn own frames]
      constructor
      case asks => exact List.forall_mem_append.2 ⟨asks, later.asks⟩
      case unused =>
        intro none
        obtain ⟨first, rest⟩ := List.forall_mem_cons.1 none
        have still := reuses.still (first own.1)
        rw [silent (by rw [still, m.frames_meet]), later.unused rest]
        rfl
      case complete =>
        intro complete
        rw [silent (reuses.complete complete), later.complete (complete' complete)]
        rfl

/-- What is known of the time after the release of a handle, in which no other object takes the place
of the one that had it. -/
structure OnlyReuses (env : Environment ω) (x : String) (h : Handle) (object : Object)
    (d : Dialogue ω) (moves : List (Move ω)) : Prop where
  /-- the object stays closed -/
  lasting : ∃ object', (d.after env moves).HoldsClosed x h object'
  frames : Leftover env x h object moves (d.framesOn env x moves)
  /-- each move on the object does nothing, as it does if it closes the object again, or uses the
  handle as if it was still there -/
  moves : ∀ before m behind, moves = before ++ m :: behind → m.IsOn x (d.after env before) →
    ∃ object', (d.after env before).HoldsClosed x h object' ∧
      Reuses env x h object' (d.after env before) m

/-- A handle whose release is acknowledged is not released again, and nothing else is asked for it
than what the calls that use it ask for. -/
theorem released_is_only_reused (env : Environment ω) (d : Dialogue ω) (hs : d.hasSession = true)
    (x : String) (object : Object) (h : Handle) (held : d.objects.lookup x = some object)
    (handle : object.handle = some h) :
    (∀ m : Move ω, m.name = x → m.call.releases = true →
      d.client.Acknowledged env h.release (d.make env m).2.client →
      ∃ object', (d.make env m).2.HoldsClosed x h object') ∧
    (object.isClosed = true → ∀ moves : List (Move ω), (∀ m ∈ moves, m.call.makes m.name ≠ some x) →
      OnlyReuses env x h object d moves) := by
  have holds : d.Holds x object := ⟨hs, held⟩
  constructor
  · intro m name releases acknowledged
    exact holds.released handle name releases acknowledged
  · intro isClosed moves lives
    have closed : d.HoldsClosed x h object := ⟨holds, handle, isClosed⟩
    constructor
    case lasting => exact closed.after env lives
    case frames => exact closed.leftover lives
    case moves =>
      rintro before m behind rfl own
      have lived : ∀ n ∈ before, n.call.makes n.name ≠ some x := fun n hn =>
        lives n (List.mem_append_left _ hn)
      obtain ⟨object', closed'⟩ := closed.after env lived
      exact ⟨object', closed', closed'.reuses own (lives m (by simp))⟩

/-- A statement without parameters. -/
def lease : Prepared := { serial := 0, handle := 1, columns := [], numInput := 0 }

/-- A cursor that has not received its one row. -/
def view : Cursor where
  serial := 0
  handle := 2
  columns := []
  total := 1
  fetchBytes := 9
  fetched := 0
  page := []

/-- A dialogue that holds both, with a far end that acknowledges a request. -/
def leased : Dialogue (List Bytes) where
  client := { session := { phase := .open, attached := true }, wire := [cannedReply ["null"]] }
  objects := [("p", .statement lease), ("r", .cursor view)]

/-- The closing of the object of a name. -/
def closing (name : String) : Move (List Bytes) := { call := .closeObject, name }

theorem eq_ok_of_isOk {r : Attempt Unit} (h : r.isOk = true) : r = .ok () := by
  cases r with
  | ok _ => rfl
  | error f => cases h

theorem lease_acknowledged :
    leased.client.Acknowledged cannedEnvironment (Handle.statement 1).release
      (leased.make cannedEnvironment (closing "p")).2.client := by
  have holds : leased.Holds "p" (.statement lease) := ⟨rfl, rfl⟩
  obtain ⟨_, -, -, -, acknowledged⟩ :=
    holds.closes_statement cannedEnvironment (m := closing "p") rfl rfl
  exact acknowledged (eq_ok_of_isOk (by decide +kernel)) rfl

theorem view_acknowledged :
    leased.client.Acknowledged cannedEnvironment (Handle.resultSet 2).release
      (leased.make cannedEnvironment (closing "r")).2.client := by
  have holds : leased.Holds "r" (.cursor view) := ⟨rfl, rfl⟩
  obtain ⟨_, -, -, -, acknowledged⟩ :=
    holds.closes_cursor cannedEnvironment (m := closing "r") rfl rfl
  exact acknowledged (eq_ok_of_isOk (by decide +kernel)) rfl (by decide)

/-- The execution of the statement, in parts. -/
def leaseExecution : List String :=
  ["\x7b\"command\": \"executePreparedStatement\", \"statementHandle\": 1, ",
    "\"numRows\": 0, \"data\": [], \"attributes\": \x7b\x7d\x7d"]

/-- The request for the row of the cursor, in parts. -/
def viewPage : List String :=
  ["\x7b\"command\": \"fetch\", \"resultSetHandle\": 2, ", "\"startPosition\": 0, \"numBytes\": 9\x7d"]

/-- Both handles are used after they are released: the statement is executed, and the cursor asks
for its row. -/
theorem released_handles_are_used :
    let closed (name : String) := (leased.make cannedEnvironment (closing name)).2
    let executes : Move (List Bytes) := { call := .executePrepared (.list []), name := "p" }
    let reads : Move (List Bytes) := { call := .fetchOne, name := "r" }
    (leased.client.Acknowledged cannedEnvironment (Handle.statement 1).release (closed "p").client ∧
      (closed "p").framesOn cannedEnvironment "p" [executes] =
        [⟨leaseExecution.flatMap Utf8.encode, false⟩]) ∧
    (leased.client.Acknowledged cannedEnvironment (Handle.resultSet 2).release (closed "r").client ∧
      (closed "r").framesOn cannedEnvironment "r" [reads] =
        [⟨viewPage.flatMap Utf8.encode, false⟩]) := by
  refine ⟨⟨lease_acknowledged, ?_⟩, view_acknowledged, ?_⟩
  · decide +kernel
  · decide +kernel

/-- The statement is closed for good: when it is closed again and then executed, the one frame on
its behalf is that of the execution. -/
theorem leased_only_reused :
    let d := (leased.make cannedEnvironment (closing "p")).2
    let moves : List (Move (List Bytes)) :=
      [closing "p", { call := .executePrepared (.list []), name := "p" }]
    (∃ object, d.HoldsClosed "p" (.statement 1) object ∧
      OnlyReuses cannedEnvironment "p" (.statement 1) object d moves) ∧
    (d.framesOn cannedEnvironment "p" moves).length = 1 := by
  intro d moves
  have lives : ∀ m ∈ moves, m.call.makes m.name ≠ some "p" := by simp [moves, closing, Call.makes]
  obtain ⟨object, closed⟩ := (released_is_only_reused cannedEnvironment leased rfl "p"
    (.statement lease) (.statement 1) rfl rfl).1 (closing "p") rfl rfl lease_acknowledged
  have after := released_is_only_reused cannedEnvironment d closed.holds.hasSession "p" object
    (.statement 1) closed.holds.object closed.handle
  refine ⟨⟨object, closed, after.2 closed.isClosed moves lives⟩, ?_⟩
  decide +kernel

end ExaWire.Script
