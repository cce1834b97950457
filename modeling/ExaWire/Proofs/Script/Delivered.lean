/-
ExaWire/Proofs/Script/Delivered.lean

A cursor delivers its result set, whatever is done beside it.

A dialogue reads from a cursor, one row after the other, and between two readings it
may work on anything else on the same session, as long as that stays open.  Other
calls leave the cursor alone and complete their exchanges, so the server is idle again
when the next page is fetched; and the pages that are fetched, of whatever size, begin
one behind the other.
-/
import ExaWire.Proofs.Cursor.Fetching
import ExaWire.Proofs.Script.Retired

namespace ExaWire

open Network

variable {ω α o : Type} {env : Environment ω}

/-! ### Queries -/

theorem Connection.ends_query (sql : String) (values : Value) (scope : Option ScopeId) (c : Client ω) :
    Ends (Connection.query env sql values scope) c fun result c' =>
      ∀ x, result = .ok x → ∃ page, x = .ofPage c'.session page := by
  have any {α : Type} (a : Action ω α) (c : Client ω) : Ends a c fun _ _ => True := trivial
  refine (any ensureOpen c).bind (fun _ c₁ _ => ?_) ?_
  · refine (any (Statement.run env sql values scope) c₁).bind (fun reply c₂ _ => ?_) ?_
    · refine .session (.ofAttempt (fun page _ => .pure ?_) ?_)
      · rintro x ⟨⟩
        exact ⟨page, rfl⟩
      · rintro f - x ⟨⟩
    · rintro f c₂ - x ⟨⟩
  · rintro f c₁ - x ⟨⟩

namespace Script

open Stage
open Client (StaysOpen)
open Dialogue (Leg)

/-- A query that is given a cursor keeps it under its name, over the page that came with it. -/
theorem Dialogue.opened_query {d : Dialogue ω} (hs : d.hasSession = true) {move : Move ω} {sql : String} {values : Value}
    (hc : move.call = .query sql values) {given : Given} (hg : (d.make env move).1 = .ok given) :
    ∃ page, (d.make env move).2.objects.lookup move.name =
      some (.cursor (.ofPage (d.make env move).2.client.session page)) := by
  unfold Dialogue.make at hg ⊢
  rw [hc] at hg ⊢
  have keeps (d : Dialogue ω) (hs : d.hasSession = true) :
      Ends (Call.perform env move.name move.scope (.query sql values)) d fun result d' =>
        result = .ok given → ∃ page, d'.objects.lookup move.name =
          some (.cursor (.ofPage d'.client.session page)) := by
    refine Ends.bind (R := fun _ d₁ => d₁.hasSession = true) hs (fun _ d₁ hs₁ => ?_) ?_
    · refine (ends_act hs₁ (Connection.ends_query sql values move.scope _)).bind ?_ ?_
      · rintro x d₂ ⟨r, hr, e⟩
        cases r <;> cases e
        obtain ⟨page, rfl⟩ := hr _ rfl
        exact fun _ => ⟨page, List.lookup_cons_self⟩
      · rintro f d₂ - ⟨⟩
    · rintro f d₁ - ⟨⟩
  exact keeps _ hs hg

/-! ### Calls on a cursor -/

namespace Stage

variable {d : Dialogue ω} {name : String}

theorem onCursor_apply {x : Cursor} (hx : d.objects.lookup name = some (.cursor x))
    (a : Held Cursor ω α) : onCursor name a d = onKept name .cursor x a d := by
  have found : find name d = (.ok (.cursor x), d) := by
    unfold find
    rw [get_bind_apply, hx]
    rfl
  unfold onCursor
  rw [bind_apply, found]

/-- An action on a cursor ends as it does on the cursor alone, and the cursor stays under its
name. -/
theorem ends_onCursor {a : Held Cursor ω α} {x : Cursor} {Q : Attempt α → Cursor × Client ω → Prop}
    (hs : d.hasSession = true) (hx : d.objects.lookup name = some (.cursor x))
    (ha : Ends a (x, d.client) Q) :
    Ends (onCursor name a) d fun result d' => ∃ r y, Q r (y, d'.client) ∧
      result = r.mapError .failed ∧ d'.objects.lookup name = some (.cursor y) ∧
      d'.hasSession = true ∧ d'.row = d.row := by
  unfold Ends at ha ⊢
  rw [onCursor_apply hx, onKept_apply hs]
  generalize a (x, d.client) = t at ha ⊢
  obtain ⟨r, y, c⟩ := t
  cases r with
  | ok b => exact ⟨.ok b, y, ha, rfl, List.lookup_cons_self, hs, rfl⟩
  | error f => exact ⟨.error f, y, ha, rfl, List.lookup_cons_self, hs, rfl⟩

end Stage

/-! ### Readings -/

/-- Whether a call reads from a cursor, row by row. -/
def Call.isReading : Call → Bool
  | .fetchOne | .nextInto _ => true
  | _ => false

/-- Whether a call that reads passes a row of so many values, if one is left: there has to be no
more room than that. -/
def Call.passes (width : Nat) : Call → Bool
  | .fetchOne => true
  | .nextInto row => row.length ≤ width
  | _ => false

/-- What a call is given that reads from a cursor, and the row that is filled then, when `n` rows
were passed. -/
inductive Delivers (r : ResultSet) (n : Nat) : Call → Except Trouble Given → List Value → Prop
  | fetched {vs row} (hn : n < r.rows.length) (length : vs.length = r.columns.length)
      (gives : r.Gives n vs) : Delivers r n .fetchOne (.ok (.value (.tuple vs))) row
  | filled {row vs} (hn : n < r.rows.length) (length : vs.length = row.length)
      (gives : r.Gives n vs) : Delivers r n (.nextInto row) (.ok (.value (.bool true))) vs
  /-- a row with too much room is not filled -/
  | tooWide {row f vs} (hn : n < r.rows.length) (wide : r.columns.length < row.length) :
      Delivers r n (.nextInto row) (.error (.failed f)) vs
  | nothingFetched {row} (hn : r.rows.length ≤ n) : Delivers r n .fetchOne (.ok (.value .null)) row
  | nothingFilled {row} (hn : r.rows.length ≤ n) :
      Delivers r n (.nextInto row) (.ok (.value (.bool false))) row

/-- A dialogue that has a cursor under a name, from which `n` rows were read, if there are so many,
and which received `m`. -/
structure Dialogue.Reading (x : String) (r : ResultSet) (s : Session) (ready : ω → Prop) (n m : Nat)
    (d : Dialogue ω) : Prop where
  attends : Cursor.Attends s ready d.client
  hasSession : d.hasSession = true
  cursor : ∃ c, d.objects.lookup x = some (.cursor c) ∧ c.Holds r s (min n r.rows.length) m

variable {r : ResultSet} {s : Session} {ready : ω → Prop} {n m : Nat} {x : String}

theorem ends_fetchOne (serves : Serves env s r ready) {d : Dialogue ω} (h : d.Reading x r s ready n m)
    (scope : Option ScopeId) :
    Ends (Call.perform env x scope .fetchOne) d fun result d' =>
      Delivers r n .fetchOne result d'.row ∧ ∃ m', d'.Reading x r s ready (n + 1) m' ∧
        Cursor.Fetched env s r ready m d.client m' d'.client := by
  obtain ⟨c, hc, holds⟩ := h.cursor
  have action : Ends (do return Given.value (((← Cursor.next env).map Value.tuple).getD .null))
      (c, d.client) fun result t => ∃ out n' m',
        result = .ok (.value ((out.map .tuple).getD .null)) ∧
        r.Reads (min n r.rows.length) out n' ∧ t.1.Holds r s n' m' ∧
        Cursor.Fetched env s r ready m d.client m' t.2 := by
    refine (Cursor.ends_next serves holds h.attends).bind ?_ ?_
    · rintro out t ⟨_, n', m', ⟨⟩, further⟩
      exact .pure ⟨out, n', m', rfl, further⟩
    · rintro f t ⟨_, _, _, ⟨⟩, -⟩
  refine (Stage.ends_onCursor h.hasSession hc action).mono ?_
  rintro _ d' ⟨_, y, ⟨out, n', m', rfl, reads, holds', fetched⟩, rfl, lookup, hasSession, -⟩
  have reading (hn' : n' = min (n + 1) r.rows.length) : d'.Reading x r s ready (n + 1) m' :=
    ⟨fetched.attends, hasSession, y, lookup, hn' ▸ holds'⟩
  cases reads with
  | row hn length gives =>
    have passed : min n r.rows.length = n := by omega
    rw [passed] at hn gives
    exact ⟨.fetched hn length gives, m', reading (by omega), fetched⟩
  | finished hn => exact ⟨.nothingFetched (by omega), m', reading (by omega), fetched⟩

theorem ends_nextInto (serves : Serves env s r ready) {d : Dialogue ω} (h : d.Reading x r s ready n m)
    (row : List Value) (scope : Option ScopeId) :
    Ends (Call.perform env x scope (.nextInto row)) d fun result d' =>
      Delivers r n (.nextInto row) result d'.row ∧
      ∃ m', d'.Reading x r s ready (if row.length ≤ r.columns.length then n + 1 else n) m' ∧
        Cursor.Fetched env s r ready m d.client m' d'.client := by
  obtain ⟨c, hc, holds⟩ := h.cursor
  have action := Cursor.ends_nextInto serves holds row h.attends
  refine (Stage.ends_onCursor h.hasSession hc action).bind ?_ ?_
  · rintro ⟨vs, result⟩ d' ⟨_, y, ⟨out, n', m', rfl, fills, holds', fetched⟩, e, lookup, hasSession, -⟩
    cases e
    have reading {k : Nat} (hk : n' = min k r.rows.length) :
        { d' with row := vs }.Reading x r s ready k m' :=
      ⟨fetched.attends, hasSession, y, lookup, hk ▸ holds'⟩
    cases fills with
    | next hn length gives =>
      have passed : min n r.rows.length = n := by omega
      rw [passed] at hn gives
      rw [if_pos (length ▸ gives.length_le)]
      exact ⟨.filled hn length gives, m', reading (by omega), fetched⟩
    | tooWide hn wide =>
      rw [if_neg (Nat.not_le_of_lt wide)]
      exact ⟨.tooWide (by omega) wide, m', reading rfl, fetched⟩
    | finished hn =>
      refine ⟨.nothingFilled (by omega), m', reading ?_, fetched⟩
      split
      · omega
      · rfl
  · rintro f d' ⟨_, _, ⟨_, _, _, rfl, -⟩, ⟨⟩, -⟩

/-- A call that reads is given the next row, or told that there is none, and the pages fetched for it
follow those fetched before. -/
theorem Dialogue.Reading.read (serves : Serves env s r ready) {d : Dialogue ω}
    (h : d.Reading x r s ready n m) {move : Move ω} (name : move.name = x)
    (reads : move.call.isReading = true) (waits : ready (move.meet d.client).wire) :
    Delivers r n move.call (d.make env move).1 (d.make env move).2.row ∧
    ∃ m', (d.make env move).2.Reading x r s ready
        (if move.call.passes r.columns.length then n + 1 else n) m' ∧
      Cursor.Fetched env s r ready m (move.meet d.client) m' (d.make env move).2.client := by
  have attends : Cursor.Attends s ready (move.meet d.client) :=
    ⟨h.attends.session, h.attends.free, h.attends.carries, waits⟩
  have met : { d with client := move.meet d.client }.Reading x r s ready n m :=
    ⟨attends, h.hasSession, h.cursor⟩
  subst name
  unfold Dialogue.make
  cases hc : move.call with
  | fetchOne => exact ends_fetchOne serves met move.scope
  | nextInto row =>
    have ends := ends_nextInto serves met row move.scope
    simp only [Call.passes, decide_eq_true_eq]
    exact ends
  | _ =>
    rw [hc] at reads
    cases reads

/-! ### Whole dialogues -/

variable {idle holds : ω → Prop}

/-- Any other call that leaves the session open leaves the reading where it is. -/
theorem Dialogue.Reading.other (once : RepliesOnce env idle) {d : Dialogue ω}
    (h : d.Reading x r s (fun w => idle w ∧ holds w) n m) {move : Move ω}
    (operates : move.call.isOperation = true) (name : move.name ≠ x)
    (subject : move.call.subject move.name ≠ x) (waits : idle (move.meet d.client).wire)
    (opens : (d.make env move).2.client.session.phase = .open)
    (held : holds (d.make env move).2.client.wire) :
    (d.make env move).2.Reading x r s (fun w => idle w ∧ holds w) n m := by
  -- the cursor is not touched, and whatever was exchanged was exchanged completely
  have leg : Leg env _ _ _ (d.make env move).2 := d.leg_make (Call.keeps_any operates)
  obtain ⟨session, stays⟩ := Client.staysOpen_path once leg.path opens
  obtain ⟨c, hc, reads⟩ := h.cursor
  refine ⟨⟨?_, h.attends.free, h.attends.carries, stays waits, held⟩, ?_, c, ?_, reads⟩
  · rw [session]
    exact h.attends.session
  · rw [leg.hasSession]
    exact h.hasSession
  · rw [leg.objects x (by rintro (e | e) <;> exact absurd e.symm ‹_›)]
    exact hc

/-- What holds of every place in a list holds of its head and of every place behind it. -/
theorem forall_places_cons {P : List α → α → Prop} {a : α} {as : List α} :
    (∀ before b behind, a :: as = before ++ b :: behind → P before b) ↔
      P [] a ∧ ∀ before b behind, as = before ++ b :: behind → P (a :: before) b := by
  constructor
  · intro h
    exact ⟨h [] a as rfl, fun before b behind e => h (a :: before) b behind (congrArg (a :: ·) e)⟩
  · rintro ⟨head, tail⟩ before b behind e
    cases before with
    | nil =>
      cases e
      exact head
    | cons first before =>
      cases e
      exact tail before b behind rfl

/-- Moves that read from the cursor of a name, and between them any operations on other objects of
the same session which leave it open, while the server keeps the result set.  Between two moves
no reply appears out of nowhere. -/
structure Interleaved (env : Environment ω) (x : String) (idle holds : ω → Prop) (d : Dialogue ω)
    (moves : List (Move ω)) : Prop where
  calls : ∀ m ∈ moves, m.name = x ∧ m.call.isReading = true ∨
    m.call.isOperation = true ∧ m.name ≠ x ∧ m.call.subject m.name ≠ x
  waits : ∀ m ∈ moves, ∀ w scopes, idle w → holds w →
    idle (m.meanwhile (w, scopes)).1 ∧ holds (m.meanwhile (w, scopes)).1
  others : ∀ before m behind, moves = before ++ m :: behind → m.name ≠ x →
    (d.after env (before ++ [m])).client.session.phase = .open ∧
      holds (d.after env (before ++ [m])).client.wire

theorem Interleaved.tail {d : Dialogue ω} {move : Move ω} {moves : List (Move ω)}
    (h : Interleaved env x idle holds d (move :: moves)) :
    Interleaved env x idle holds (d.make env move).2 moves where
  calls m hm := h.calls m (.tail _ hm)
  waits m hm := h.waits m (.tail _ hm)
  others := (forall_places_cons.1 h.others).2

/-- How many rows are passed by moves on the cursor of a name, if there are so many. -/
def passings (r : ResultSet) (x : String) (moves : List (Move ω)) : Nat :=
  moves.countP fun m => m.name = x && m.call.passes r.columns.length

theorem passings_cons (r : ResultSet) {move : Move ω} (name : move.name = x) (n : Nat)
    (moves : List (Move ω)) :
    n + passings r x (move :: moves) =
      (if move.call.passes r.columns.length then n + 1 else n) + passings r x moves := by
  rw [passings, List.countP_cons, passings]
  simp only [name, decide_true, Bool.true_and]
  split
  · omega
  · rfl

theorem passings_cons_of_ne (r : ResultSet) {move : Move ω} (name : move.name ≠ x)
    (moves : List (Move ω)) : passings r x (move :: moves) = passings r x moves := by
  rw [passings, List.countP_cons_of_neg (by simp [name]), passings]

/-- What passes over the channel during the moves on the object of a name. -/
def Dialogue.traceOf (env : Environment ω) (x : String) : Dialogue ω → List (Move ω) → List Happening
  | _, [] => []
  | d, m :: moves =>
    (if m.name = x then (d.make env m).2.client.trace.drop d.client.trace.length else []) ++
      (d.make env m).2.traceOf env x moves

/-- All readings of a dialogue are given their rows, and the pages are fetched in order. -/
theorem Dialogue.Reading.after (serves : Serves env s r fun w => idle w ∧ holds w)
    (once : RepliesOnce env idle) {d : Dialogue ω} {moves : List (Move ω)}
    (h : d.Reading x r s (fun w => idle w ∧ holds w) n m)
    (interleaved : Interleaved env x idle holds d moves) :
    (∀ before move behind, moves = before ++ move :: behind → move.name = x →
      Delivers r (n + passings r x before) move.call ((d.after env before).make env move).1
        ((d.after env before).make env move).2.row) ∧
    ∃ m', (d.after env moves).Reading x r s (fun w => idle w ∧ holds w) (n + passings r x moves) m' ∧
      Fetches env s r m (d.traceOf env x moves) m' := by
  induction moves generalizing d n m with
  | nil =>
    refine ⟨fun before move behind e => ?_, m, h, .none⟩
    cases before <;> cases e
  | cons move moves ih =>
    obtain ⟨hi, hh⟩ := interleaved.waits move (.head _) d.client.wire d.client.scopes
      h.attends.ready.1 h.attends.ready.2
    have tail := interleaved.tail
    rcases interleaved.calls move (.head _) with ⟨name, reads⟩ | ⟨operates, name, subject⟩
    -- a reading: what it adds to the channel are the next pages
    · obtain ⟨delivers, m₁, reading, fetched⟩ := h.read serves name reads ⟨hi, hh⟩
      obtain ⟨news, fetches, goes⟩ := fetched.news
      have traced : (d.make env move).2.client.trace.drop d.client.trace.length = news := by
        rw [goes.trace]
        exact List.drop_left
      obtain ⟨all, m₂, further, rest⟩ := ih reading tail
      refine ⟨forall_places_cons.2 ⟨fun _ => delivers, fun before other behind e own => ?_⟩, m₂, ?_, ?_⟩
      · rw [passings_cons r name]
        exact all before other behind e own
      · rw [passings_cons r name]
        exact further
      · rw [Dialogue.traceOf, if_pos name, traced]
        exact fetches.append rest
    -- any other move: neither the number of rows passed nor that of rows received changes
    · obtain ⟨opens, held⟩ := interleaved.others [] move moves rfl name
      have reading := h.other once operates name subject hi opens held
      obtain ⟨all, m₂, further, rest⟩ := ih reading tail
      refine ⟨forall_places_cons.2 ⟨fun own => absurd own name, fun before other behind e own => ?_⟩,
        m₂, ?_, ?_⟩
      · rw [passings_cons_of_ne r name]
        exact all before other behind e own
      · rw [passings_cons_of_ne r name]
        exact further
      · rw [Dialogue.traceOf, if_neg name]
        exact rest

/-- An open session is at an idle far end after any course, if the far end was idle at first. -/
theorem idle_course (once : RepliesOnce env idle) {config : Config} {url : Option String} {wire : ω}
    {scopes : Scopes} {scope : Option ScopeId} {moves : List (Move ω)}
    (operate : ∀ m ∈ moves, m.call.isOperation = true)
    (waits : ∀ m ∈ moves, ∀ w scopes, idle w → idle (m.meanwhile (w, scopes)).1) (hi : idle wire)
    (opens : (course env (onChannel config url wire scopes) scope moves).client.session.phase = .open) :
    idle (course env (onChannel config url wire scopes) scope moves).client.wire := by
  have between : ∀ m ∈ moves, ∀ c, StaysOpen idle c (m.meet c) := fun m hm c _ =>
    ⟨rfl, waits m hm c.wire c.scopes⟩
  have stays := Dialogue.after_relates between (fun _ _ => Client.staysOpen_path once)
    (fun m hm => Call.keeps_any (operate m hm))
    { client := (Session.login env scope (onChannel config url wire scopes)).2 }
  obtain ⟨session, further⟩ := stays opens
  refine further (Client.idle_login once scope hi ?_)
  rw [← session]
  exact opens

/-- A cursor of a result set, the first `size` rows of which came with the query, is read by some of
the moves of a dialogue. -/
structure ReadsThrough (env : Environment ω) (x : String) (r : ResultSet) (size : Nat)
    (d : Dialogue ω) (moves : List (Move ω)) : Prop where
  /-- every reading is given the row behind those passed before, and told that there is none once
  all were passed -/
  delivers : ∀ before move behind, moves = before ++ move :: behind → move.name = x →
    Delivers r (passings r x before) move.call ((d.after env before).make env move).1
      ((d.after env before).make env move).2.row
  /-- the cursor fetches page after page, beginning with the row behind the first page -/
  fetches : ∃ last, last ≤ r.rows.length ∧
    Fetches env d.client.session r size (d.traceOf env x moves) last
  /-- it fetches nothing if all rows came with the query -/
  unasked : size = r.rows.length → d.traceOf env x moves = []
  isOpen : (d.after env moves).client.session.phase = .open

/-- A cursor delivers its result set row by row and once, whatever pages the server makes of it, and
whatever is done on the session between two readings. -/
theorem course_readsThrough (env : Environment ω) (config : Config) (url : Option String) (wire : ω)
    (scopes : Scopes) (scope : Option ScopeId) (before moves : List (Move ω)) (x : String)
    (r : ResultSet) (page : ResultPage) (size : Nat) (idle holds : ω → Prop) (d : Dialogue ω)
    (begun : course env (onChannel config url wire scopes) scope before = d)
    (operate : ∀ m ∈ before, m.call.isOperation = true)
    (once : RepliesOnce env idle) (starts : idle wire)
    (waits : ∀ m ∈ before, ∀ w scopes, idle w → idle (m.meanwhile (w, scopes)).1)
    (opens : d.client.session.phase = .open)
    (opened : d.objects.lookup x = some (.cursor (.ofPage d.client.session page)))
    (first : r.IsFirstPage page size)
    (held : holds d.client.wire)
    (serves : Serves env d.client.session r fun w => idle w ∧ holds w)
    (interleaved : Interleaved env x idle holds d moves) :
    ReadsThrough env x r size d moves := by
  have settled : d.client.Settled env fun _ => True := begun ▸ settled_course operate (writes_any _)
  have hasSession : d.hasSession = true := begun ▸ Dialogue.hasSession_after operate _
  have rests : idle d.client.wire := by
    subst begun
    exact idle_course once operate waits starts opens
  have fresh : (Cursor.ofPage d.client.session page).Holds r d.client.session (min 0 r.rows.length)
      size := by
    rw [Nat.zero_min]
    exact Cursor.holds_ofPage first
  have attends : Cursor.Attends d.client.session (fun w => idle w ∧ holds w) d.client :=
    ⟨rfl, settled.free, settled.carries opens, rests, held⟩
  have reading : d.Reading x r d.client.session (fun w => idle w ∧ holds w) 0 size :=
    ⟨attends, hasSession, _, opened, fresh⟩
  obtain ⟨delivers, last, further, fetches⟩ := reading.after serves once interleaved
  obtain ⟨c, -, holds⟩ := further.cursor
  refine ⟨?_, ⟨last, holds.received, fetches⟩, fun whole => ?_, ?_⟩
  · simpa only [Nat.zero_add] using delivers
  · exact fetches.eq_nil (whole ▸ holds.received)
  · rw [further.attends.session]
    exact opens

/-! ### A server with three rows -/

/-- Three rows of one whole decimal. -/
def threeRows : ResultSet where
  handle := 7
  columns := [⟨"N", { name := "DECIMAL", scale := .int 0 }⟩]
  rows := [[.int 10], [.int 20], [.int 30]]
  width := by simp
  finite := by
    intro row hr j x column hx
    obtain ⟨n, rfl⟩ : ∃ n, row = [.int n] := by
      simp only [List.mem_cons, List.not_mem_nil, or_false] at hr
      rcases hr with rfl | rfl | rfl <;> exact ⟨_, rfl⟩
    cases List.mem_singleton.1 (List.mem_of_getElem? hx)

/-- The reply to a query that tells of three rows and shows the first of them. -/
def threeRowsOpened : Bytes :=
  cannedReply ["\x7b\"numResults\": 1, \"results\": [", "\x7b\"resultType\": \"resultSet\", ",
    "\"resultSet\": \x7b", "\"resultSetHandle\": 7, ", "\"numRows\": 3, ", "\"numRowsInMessage\": 1, ",
    "\"columns\": [\x7b\"name\": \"N\", ", "\"dataType\": \x7b", "\"type\": \"DECIMAL\", ",
    "\"scale\": 0\x7d\x7d], ", "\"data\": [[10]]", "\x7d\x7d]\x7d"]

/-- The reply to the request for the rows from one on: a page of one row. -/
@[irreducible]
def rowPage (n : Nat) : Bytes :=
  cannedReply ["\x7b\"numRows\": 1, ", "\"data\": [[", toString (10 * (n + 1)), "]]\x7d"]

/-- The payload of that request. -/
@[irreducible]
def rowRequest (n : Nat) : Bytes :=
  match Session.encode cannedEnvironment.codec false
    (Session.fetchFrom { config := cannedConfig } threeRows n) with
  | .ok payload => payload
  | .error _ => []

/-- A reply to any frame: a page to the request for one, which tells the row in its 61st character,
and otherwise that two rows are affected. -/
@[irreducible]
def replyTo (payload : Bytes) : Bytes :=
  match (payload.drop 13).head?, (payload.drop 60).head? with
  | some 0x66, some digit => rowPage (digit.toNat - 48)
  | _, _ => cannedReply ["\x7b\"numResults\": 1, ", "\"results\": [\x7b\"rowCount\": 2\x7d]\x7d"]

/-- A server that first gives replies from a list and then serves three rows, with the reply that is to
be read next. -/
def serving : Wire (List Bytes × Option Bytes) where
  send frame
    | ([], _) => { result := .ok (), rest := ([], some (replyTo frame.payload)) }
    | (bs :: replies, _) => { result := .ok (), rest := (replies, some bs) }
  poll w := { result := .ok true, rest := w }
  receive w := { result := .ok w.2, rest := (w.1, none) }
  close w := { result := .ok (), rest := w }
  patience _ := 0
  patience_lt _ h := by cases h

def servingEnvironment : Environment (List Bytes × Option Bytes) :=
  { cannedEnvironment with wire := serving }

/-- A reply carries a page of one row, with one number in it. -/
def carriesRow (bs : Bytes) (n : Int) : Bool :=
  match Session.decode cannedEnvironment.codec false bs with
  | .error _ => false
  | .ok entries =>
    match Session.answer ResultPage.ofValue entries with
    | .error _ => false
    | .ok page =>
      match page.data with
      | [[.int m]] => page.numRows = 1 && m = n
      | _ => false

theorem exists_rowPage {n : Nat} (hn : n < 3) : ∃ entries page,
    Session.decode cannedEnvironment.codec false (rowPage n) = .ok entries ∧
    Session.answer ResultPage.ofValue entries = .ok page ∧ threeRows.IsPage page n 1 := by
  have carries : ∀ n < 3, carriesRow (rowPage n) (10 * (n + 1)) = true := by decide +kernel
  have h := carries n hn
  unfold carriesRow at h
  split at h
  · cases h
  · next entries decoded =>
    split at h
    · cases h
    · next page read =>
      split at h
      · next m data =>
        simp only [Bool.and_eq_true, decide_eq_true_eq] at h
        obtain ⟨rows, rfl⟩ := h
        refine ⟨entries, page, decoded, read, rows, Nat.one_pos, hn, ?_⟩
        intro i hi j hj
        obtain rfl : i = 0 := by omega
        obtain rfl : j = 0 := Nat.lt_one_iff.1 hj
        rw [data]
        obtain rfl | rfl | rfl : n = 0 ∨ n = 1 ∨ n = 2 := by omega
        all_goals rfl
      · cases h

/-- The server serves its rows once its list has come to an end. -/
theorem serves_threeRows {s : Session} (compressing : s.compressing = false)
    (fetchBytes : s.config.fetchBytes = cannedConfig.fetchBytes) :
    Serves servingEnvironment s threeRows fun w => w.2 = none ∧ w.1 = [] := by
  rintro n hn ⟨replies, pending⟩ ⟨rfl, rfl⟩
  have written : ∀ n < 3, (Session.encode cannedEnvironment.codec false
      (Session.fetchFrom { config := cannedConfig } threeRows n)).isOk = true := by decide +kernel
  have replied : ∀ n < 3, replyTo (rowRequest n) = rowPage n := by decide +kernel
  obtain ⟨entries, page, decoded, read, given⟩ := exists_rowPage hn
  have request : s.fetchFrom threeRows n = Session.fetchFrom { config := cannedConfig } threeRows n := by
    unfold Session.fetchFrom
    rw [fetchBytes]
  have asked : Session.encode cannedEnvironment.codec false (s.fetchFrom threeRows n) =
      .ok (rowRequest n) := by
    have ok := written n hn
    unfold rowRequest
    rw [request]
    split
    · assumption
    · next f e =>
      rw [e] at ok
      cases ok
  refine ⟨rowRequest n, rowPage n, entries, page, 1, ([], none), ⟨?_, ?_, ?_, ?_, ?_⟩, read, given, rfl, rfl⟩
  · rw [compressing]
    exact asked
  · rfl
  · show Except.ok (some (replyTo (rowRequest n))) = Except.ok (some (rowPage n))
    rw [replied n hn]
  · rfl
  · rw [compressing]
    exact decoded

/-- A cursor stands under a name, over a page that three rows begin with. -/
def isOpened (d : Dialogue (List Bytes × Option Bytes)) : Bool :=
  match d.objects.lookup "x" with
  | some (.cursor c) =>
    match c.columns, c.page with
    | [⟨"N", ⟨"DECIMAL", .null, .int 0, .null, .null, .null, .null, .null⟩⟩], [[.int 10]] =>
      c.handle = 7 && c.total = 3 && c.fetched = 1
    | _, _ => false
  | _ => false

theorem isFirstPage_of_isOpened {d : Dialogue (List Bytes × Option Bytes)} {s : Session} {page : ResultPage}
    (opened : d.objects.lookup "x" = some (.cursor (.ofPage s page))) (h : isOpened d = true) :
    threeRows.IsFirstPage page 1 := by
  unfold isOpened at h
  simp only [opened] at h
  split at h
  · next columns data =>
    simp only [Bool.and_eq_true, decide_eq_true_eq] at h
    obtain ⟨⟨handle, total⟩, fetched⟩ := h
    refine ⟨handle, columns, total, fetched, by decide, ?_⟩
    intro i hi j hj
    obtain rfl : i = 0 := by omega
    obtain rfl : j = 0 := Nat.lt_one_iff.1 hj
    have data : page.data = [[.int 10]] := data
    rw [data]
    rfl
  · cases h

theorem once_serving : RepliesOnce servingEnvironment fun w => w.2 = none := by
  intro frame w w' bs _ _ _ _
  rfl

/-- Three rows are read from three pages, and then nothing, with a statement executed in between. -/
theorem threeRows_readsThrough :
    let moves : List (Move (List Bytes × Option Bytes)) :=
      [{ call := .fetchOne }, { call := .execute "UPDATE t SET n = 1" .null, name := "y" },
        { call := .nextInto [.null] }, { call := .fetchOne }, { call := .fetchOne }]
    let query : Move (List Bytes × Option Bytes) := { call := .query "SELECT n FROM t" .null }
    let start := onChannel cannedConfig none (cannedLogin [threeRowsOpened], none) []
    passings threeRows "x" moves = 4 ∧
      ReadsThrough servingEnvironment "x" threeRows 1 (course servingEnvironment start none [query]) moves := by
  intro moves query start
  have facts : let d := course servingEnvironment start none [query]
      let d₁ := d.after servingEnvironment (moves.take 2)
      (Dialogue.make servingEnvironment
        { client := (Session.login servingEnvironment none start).2 } query).1.isOk = true ∧
      isOpened d = true ∧ d.client.session.phase = .open ∧ d.client.session.compressing = false ∧
      d.client.session.config.fetchBytes = cannedConfig.fetchBytes ∧ d.client.wire.1 = [] ∧
      d₁.client.session.phase = .open ∧ d₁.client.wire.1 = [] := by
    decide +kernel
  have single := course_singleton servingEnvironment start none query
  generalize begun : course servingEnvironment start none [query] = d at facts single ⊢
  generalize hl : ({ client := (Session.login servingEnvironment none start).2 } : Dialogue _) = login
    at facts single
  obtain ⟨given, shown, opens, compressing, fetchBytes, listed, stays, keeps⟩ := facts
  have hasSession : login.hasSession = true := by rw [← hl]
  cases hg : (login.make servingEnvironment query).1 with
  | error t =>
    rw [hg] at given
    cases given
  | ok g =>
    obtain ⟨page, opened⟩ := Dialogue.opened_query hasSession rfl hg
    rw [← single] at opened
    have quiet : ∀ m ∈ query :: moves, m.meanwhile = id := by simp [query, moves]
    have interleaved : Interleaved servingEnvironment "x" (fun w => w.2 = none) (fun w => w.1 = []) d
        moves := by
      refine ⟨by decide, ?_, ?_⟩
      · intro m hm w scopes hi hh
        rw [quiet m (.tail _ hm)]
        exact ⟨hi, hh⟩
      · refine forall_places_cons.2 ⟨fun other => absurd rfl other, ?_⟩
        refine forall_places_cons.2 ⟨fun _ => ⟨stays, keeps⟩, ?_⟩
        refine forall_places_cons.2 ⟨fun other => absurd rfl other, ?_⟩
        refine forall_places_cons.2 ⟨fun other => absurd rfl other, ?_⟩
        refine forall_places_cons.2 ⟨fun other => absurd rfl other, ?_⟩
        intro before m behind e
        simp at e
    refine ⟨by decide, course_readsThrough servingEnvironment cannedConfig none _ [] none [query] moves "x"
      threeRows page 1 (fun w => w.2 = none) (fun w => w.1 = []) d begun ?_ once_serving rfl ?_ opens opened
      (isFirstPage_of_isOpened opened shown) listed (serves_threeRows compressing fetchBytes) interleaved⟩
    · simp [query, Call.isOperation]
    · intro m hm w scopes hi
      rw [quiet m (by simp_all)]
      exact hi

end Script

end ExaWire
