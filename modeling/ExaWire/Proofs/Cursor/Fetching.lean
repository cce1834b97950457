/-
ExaWire/Proofs/Cursor/Fetching.lean

Fetching from a server that holds the result set.

The server answers the request for the rows from any row on with a page of them, of
any size but not empty.  A cursor asks for the row behind the last one that it
received, so its requests begin where the pages before end, and it asks only if that
row is wanted and there is one.
-/
import ExaWire.Proofs.Cursor.Reading

namespace ExaWire

open Network

variable {ω : Type} {env : Environment ω} {s : Session} {r : ResultSet} {ready : ω → Prop}

/-! ### Servers -/

/-- The request for the rows of a result set from one on. -/
def Session.fetchFrom (s : Session) (r : ResultSet) (n : Nat) : Value :=
  Command.fetch (.int r.handle) (.int n) (.int s.config.fetchBytes)

/-- A far end serves a result set while it is ready: it answers the request for the rows from any
row on with a page that begins with that row, and is ready again. -/
def Network.Serves (env : Environment ω) (s : Session) (r : ResultSet) (ready : ω → Prop) : Prop :=
  ∀ n < r.rows.length, ∀ w, ready w → ∃ payload bs entries page size w',
    Answers env s.compressing (s.fetchFrom r n) w payload bs entries w' ∧
    Session.answer ResultPage.ofValue entries = .ok page ∧ r.IsPage page n size ∧ ready w'

/-- What passes over the channel when the rows from `n` up to `m` are fetched: a request for the
rows from `n` on, the reply with a page of them, and so on with the row behind that page. -/
inductive Fetches (env : Environment ω) (s : Session) (r : ResultSet) :
    Nat → List Happening → Nat → Prop
  | none {n} : Fetches env s r n [] n
  | page {n m size payload bs entries page news}
      (asked : Session.encode env.codec s.compressing (s.fetchFrom r n) = .ok payload)
      (decoded : Session.decode env.codec s.compressing bs = .ok entries)
      (read : Session.answer ResultPage.ofValue entries = .ok page)
      (given : r.IsPage page n size)
      (rest : Fetches env s r (n + size) news m) :
      Fetches env s r n (.sent ⟨payload, s.compressing⟩ :: .received bs :: news) m

namespace Fetches

variable {n m l : Nat} {news more : List Happening}

theorem append (h : Fetches env s r n news m) (h' : Fetches env s r m more l) :
    Fetches env s r n (news ++ more) l := by
  induction h with
  | none => exact h'
  | page asked decoded read given _ ih => exact .page asked decoded read given (ih h')

theorem le (h : Fetches env s r n news m) : n ≤ m := by
  induction h with
  | none => exact Nat.le_refl _
  | page _ _ _ _ _ ih => omega

/-- Nothing is fetched if no row is left. -/
theorem eq_nil (h : Fetches env s r n news m) (hm : m ≤ n) : news = [] := by
  cases h with
  | none => rfl
  | page _ _ _ given rest =>
    have some := given.some
    have further := rest.le
    omega

end Fetches

/-! ### Cursors -/

namespace Cursor

open Held

variable {x : Cursor} {c : Client ω} {n m : Nat}

/-- A client whose session can carry a request, and is what it was when the reading began, at a
far end that is ready. -/
structure Attends (s : Session) (ready : ω → Prop) (c : Client ω) : Prop where
  session : c.session = s
  free : s.outstanding = false
  carries : s.Carries
  ready : ready c.wire

/-- While a cursor that had received `m` rows received more, up to `m'`, its client fetched just
these. -/
structure Fetched (env : Environment ω) (s : Session) (r : ResultSet) (ready : ω → Prop) (m : Nat)
    (c : Client ω) (m' : Nat) (c' : Client ω) : Prop where
  attends : Attends s ready c'
  news : ∃ news, Fetches env s r m news m' ∧ c.Goes c' s news

theorem Fetched.refl (h : Attends s ready c) (m : Nat) : Fetched env s r ready m c m c :=
  ⟨h, [], .none, h.session ▸ .refl c⟩

theorem Holds.turnTo (h : Holds r s n n x) {page : ResultPage} {size : Nat}
    (given : r.IsPage page n size) : Holds r s n (n + size) (x.turnTo page) where
  serial := h.serial
  fetchBytes := h.fetchBytes
  handle := h.handle
  columns := h.columns
  total := h.total
  rowPointer := h.rowPointer
  fetched := by
    show x.fetched + page.numRows = _
    rw [h.fetched, given.numRows]
    exact (Int.natCast_add n size).symm
  page := given.shows
  passed := Nat.le_add_right n size
  received := given.within

/-- A cursor that holds no row fetches the next ones. -/
theorem ends_fetch (serves : Serves env s r ready) (h : Holds r s n n x) (hn : n < r.rows.length)
    (attends : Attends s ready c) :
    Ends (fetch env) (x, c) fun result t => result = .ok () ∧ ∃ m, n < m ∧ Holds r s n m t.1 ∧
      Fetched env s r ready n c m t.2 := by
  obtain ⟨session, free, carries, hready⟩ := attends
  subst session
  obtain ⟨payload, bs, entries, page, size, w, answers, read, given, further⟩ := serves n hn _ hready
  have live : c.session.live x.serial = .ok () := by
    simp [Session.live, h.serial, Session.isClosed, carries.isOpen]
  have request : Command.fetch (.int x.handle) (.int x.rowPointer) (.int x.fetchBytes) =
      c.session.fetchFrom r n := by
    rw [h.handle, h.rowPointer, h.fetchBytes]
    rfl
  -- the cursor asks for the row that it wants, and the server answers that very request
  rw [← request] at answers
  refine .object (.actSession (.heldOfAttempt_ok live ?_))
  refine .act (Session.ends_send_answered free carries rfl answers) ?_ ?_
  · rintro page' c₁ ⟨hpage, wire, goes⟩
    cases hpage.trans read
    have rows : page.numRows ≠ 0 := by
      rw [given.numRows]
      have some := given.some
      omega
    rw [if_neg rows]
    refine .actNote ?_
    rw [← wire] at further
    have asked := answers.encoded
    rw [request] at asked
    have fetches : Fetches env c.session r n [.sent ⟨payload, c.session.compressing⟩, .received bs]
        (n + size) := .page asked answers.decoded read given .none
    have some := given.some
    refine ⟨rfl, n + size, by omega, h.turnTo given, ⟨goes.session, free, carries, further⟩, ?_⟩
    exact ⟨_, fetches, goes.steady (c₁.steady_annotate _)⟩
  · rintro f c₁ ⟨hf, -⟩
    cases hf.trans read

/-- Before a row is passed, it is held. -/
theorem ends_turn (serves : Serves env s r ready) (h : Holds r s n m x) (hn : n < r.rows.length)
    (attends : Attends s ready c) :
    Ends (if x.needsPage then fetch env else pure ()) (x, c) fun result t =>
      result = .ok () ∧ ∃ m', n < m' ∧ Holds r s n m' t.1 ∧ Fetched env s r ready m c m' t.2 := by
  by_cases needs : x.needsPage = true
  · obtain ⟨rfl, -⟩ := h.needsPage.1 needs
    rw [if_pos needs]
    exact ends_fetch serves h hn attends
  · rw [if_neg needs]
    have passed := h.passed
    -- no page is needed, so the next row was received before
    have held : n ≠ m := fun e => needs (h.needsPage.2 ⟨e, hn⟩)
    exact .pure ⟨rfl, m, by omega, h, .refl attends m⟩

/-! ### Rows -/

theorem ends_nextInto (serves : Serves env s r ready) (h : Holds r s n m x) (row : List Value)
    (attends : Attends s ready c) :
    Ends (nextInto env row) (x, c) fun result t => ∃ out n' m', result = .ok out ∧
      r.Fills n row out n' ∧ Holds r s n' m' t.1 ∧ Fetched env s r ready m c m' t.2 := by
  refine .object ?_
  by_cases atEnd : x.atEnd = true
  · rw [if_pos atEnd]
    have hn := h.atEnd.1 atEnd
    exact .pure ⟨_, n, m, rfl, .finished hn, h, .refl attends m⟩
  · rw [if_neg atEnd]
    have passed := h.passed
    have received := h.received
    have hn : n < r.rows.length := by
      have : n ≠ r.rows.length := fun e => atEnd (h.atEnd.2 e)
      omega
    refine .heldAttempt (ends_turn serves h hn attends) ?_
    rintro _ ⟨y, c₁⟩ ⟨rfl, m', held, h', fetched⟩
    refine .object ?_
    -- the row is held now, so the filling can fail only for want of columns
    have filled := filled_fill y 0 row
    generalize y.fill 0 row = out at filled ⊢
    cases filled with
    | whole length values =>
      refine .change (.pure ⟨_, n + 1, m', rfl, .next hn length ?_, h'.pass held, fetched⟩)
      intro j v hv
      have delivered := values j v hv
      rw [Nat.zero_add] at delivered
      exact h'.gives held delivered
    | stuck j hj missing =>
      rw [Nat.zero_add] at missing
      have wide : r.columns.length < row.length := by
        rcases Nat.lt_or_ge j r.columns.length with inside | behind
        · obtain ⟨v, _, _, hv, -⟩ := h'.exists_value held inside
          cases hv.symm.trans missing
        · exact Nat.lt_of_le_of_lt behind hj
      exact .pure ⟨_, n, m', rfl, .tooWide hn wide, h', fetched⟩

theorem ends_next (serves : Serves env s r ready) (h : Holds r s n m x)
    (attends : Attends s ready c) :
    Ends (next env) (x, c) fun result t => ∃ out n' m', result = .ok out ∧
      r.Reads n out n' ∧ Holds r s n' m' t.1 ∧ Fetched env s r ready m c m' t.2 := by
  refine .object ((ends_nextInto serves h _ attends).bind ?_ ?_)
  · rintro _ t ⟨_, n', m', ⟨⟩, fills, h', fetched⟩
    have blank : (x.columns.map fun _ => Value.null).length = r.columns.length := by
      rw [List.length_map, h.columns]
    cases fills with
    | next hn length gives =>
      exact .pure ⟨_, _, m', rfl, .row hn (length.trans blank) gives, h', fetched⟩
    | tooWide hn wide =>
      rw [blank] at wide
      exact absurd wide (Nat.lt_irrefl _)
    | finished hn => exact .pure ⟨_, _, m', rfl, .finished hn, h', fetched⟩
  · rintro f t ⟨_, _, _, ⟨⟩, -⟩

end Cursor

end ExaWire
