/-
ExaWire/Proofs/Cursor/Placed.lean

Where a cursor stands, whatever the server says.

A caller visits a cursor time and again, to have a row filled or to close it, and each time
its client may be any client at all: with any far end, any session, and any replies to come.
So nothing is known of the counters and of the pages that arrive.  Still the cursor knows
where it stands: its page was asked for at a position, and its two pointers are that
position apart.

What one visit does is told by `Advances`; what holds after any number of them follows by
induction.
-/
import ExaWire.Proofs.Cursor.Reading
import ExaWire.Proofs.Session.Tried
import Mathlib.Data.List.Induction

namespace ExaWire.Cursor

open Held Network Session

variable {ω : Type} {env : Environment ω} {s : Session} {first : ResultPage} {x : Cursor}
  {c : Client ω}

/-! ### One row -/

/-- The request for the page that begins with the next row. -/
def request (x : Cursor) : Value :=
  Command.fetch (.int x.handle) (.int x.rowPointer) (.int x.fetchBytes)

/-- How a fetch ends: a page that is not empty was read from the reply to that very request, or
the cursor is what it was. -/
inductive Fetching (env : Environment ω) (x : Cursor) (c : Client ω) :
    Attempt Unit → Cursor → Client ω → Prop
  | turned {payload bs entries page c₁ c'} (answers : Answers env x.request c payload bs entries c₁)
      (read : answer ResultPage.ofValue entries = .ok page) (some : page.numRows ≠ 0)
      (tried : Tried env x.request c c') : Fetching env x c (.ok ()) (x.turnTo page) c'
  | failed {f c'} (tried : c' = c ∨ Tried env x.request c c') : Fetching env x c (.error f) x c'

theorem ends_fetching (env : Environment ω) (x : Cursor) (c : Client ω) :
    Ends (fetch env) (x, c) fun r t => Fetching env x c r t.1 t.2 := by
  have sends : Ends (Session.send env x.request ResultPage.ofValue) c fun r c' =>
      Told env x.request ResultPage.ofValue c r c' ∧
        ((∃ f, r = .error f) ∧ c' = c ∨ Tried env x.request c c') :=
    (ends_send_told _ _ _ c).and (ends_send_once _ _ c)
  refine .object (.actSession (.heldOfAttempt (fun _ _ => ?_) fun f _ => .failed (.inl rfl)))
  refine .act sends ?_ ?_
  · rintro page c₁ ⟨_ | _ | ⟨-, answers, read⟩, ⟨⟨_, ⟨⟩⟩, -⟩ | tried⟩
    refine .ite (fun _ => .bind (R := fun r t => (∃ f, r = .error f) ∧ t = (x, c₁)) ?_ ?_ ?_) ?_
    · exact .throw ⟨⟨_, rfl⟩, rfl⟩
    · rintro _ t ⟨⟨_, ⟨⟩⟩, -⟩
    · rintro f t ⟨-, rfl⟩
      exact .failed (.inr tried)
    · -- the page is turned to only when it is known to have rows
      intro some
      have still (note : Note) : c₁.Still (c₁.annotate [note]) := ⟨rfl, (c₁.steady_annotate _).frames⟩
      exact .actNote (.turned answers read some (tried.still (still _)))
  · rintro f c₁ ⟨-, ⟨-, same⟩ | tried⟩
    · exact .failed (.inl same)
    · exact .failed (.inr tried)

/-- How the next row comes to be held: it was received before, or its page is fetched. -/
inductive Turning (env : Environment ω) (x : Cursor) (c : Client ω) :
    Attempt Unit → Cursor → Client ω → Prop
  | held (h : x.needsPage = false) : Turning env x c (.ok ()) x c
  | fetched {r x' c'} (h : x.needsPage = true) (fetching : Fetching env x c r x' c') :
    Turning env x c r x' c'

theorem ends_turning (env : Environment ω) (x : Cursor) (c : Client ω) :
    Ends (if x.needsPage then fetch env else pure ()) (x, c) fun r t => Turning env x c r t.1 t.2 := by
  refine .ite (fun needs => (ends_fetching env x c).mono fun _ _ h => .fetched needs h) fun needs => ?_
  exact .pure (.held (by simpa using needs))

/-- What one call for a row comes to. -/
inductive Advances (env : Environment ω) (x : Cursor) (c : Client ω) (row : List Value) :
    Attempt (Option (List Value)) → Cursor → Client ω → Prop
  | finished (h : x.atEnd = true) : Advances env x c row (.ok none) x c
  /-- the page is not turned, and the cursor is what it was -/
  | unfetched {f c'} (h : x.atEnd = false) (needs : x.needsPage = true)
      (tried : c' = c ∨ Tried env x.request c c') : Advances env x c row (.error f) x c'
  /-- the page lacks a value of the row, or a value cannot be delivered -/
  | stuck {i f x' c'} (h : x.atEnd = false) (turning : Turning env x c (.ok ()) x' c') (hi : i < row.length)
      (missing : x'.value i = .error f) : Advances env x c row (.error f) x' c'
  | passed {vs x' c'} (h : x.atEnd = false) (turning : Turning env x c (.ok ()) x' c')
      (length : vs.length = row.length) (values : ∀ i v, vs[i]? = some v → x'.value i = .ok v) :
    Advances env x c row (.ok (some vs)) x'.pass c'

/-- What a caller does with a cursor. -/
inductive Use
  | fill (row : List Value)
  | close

/-- Has the cursor do it.  The row that was filled is given, unless the end is reached. -/
def Use.perform (env : Environment ω) : Use → Held Cursor ω (Option (List Value))
  | .fill row => do
    let (row, result) ← nextInto env row
    return if ← ofAttempt result then some row else none
  | .close => do
    Cursor.close env
    return none

/-- The next row is filled into a blank one. -/
theorem next_apply (env : Environment ω) (x : Cursor) (c : Client ω) :
    next env (x, c) = (Use.fill (x.columns.map fun _ => .null)).perform env (x, c) := rfl

theorem ends_fill (env : Environment ω) (row : List Value) (x : Cursor) (c : Client ω) :
    Ends ((Use.fill row).perform env) (x, c) fun r t => Advances env x c row r t.1 t.2 := by
  -- the row is given along with its result, and only then is the result looked at
  have fills : Ends (nextInto env row) (x, c) fun r t => ∃ vs result, r = .ok (vs, result) ∧
      Advances env x c row (result.map fun more => if more then some vs else none) t.1 t.2 := by
    refine .object (.ite (fun h => .pure ⟨_, _, rfl, .finished h⟩) fun more => ?_)
    have h : x.atEnd = false := by simpa using more
    refine .heldAttempt (ends_turning env x c) ?_
    rintro (f | _) ⟨x', c'⟩ turning
    · obtain _ | ⟨needs, _ | tried⟩ := turning
      exact .pure ⟨_, _, rfl, .unfetched h needs tried⟩
    · refine .object ?_
      have filled := filled_fill x' 0 row
      generalize x'.fill 0 row = out at filled ⊢
      cases filled with
      | whole length values =>
        refine .change (.pure ⟨_, _, rfl, .passed h turning length fun i v hv => ?_⟩)
        simpa using values i v hv
      | stuck i hi missing =>
        rw [Nat.zero_add] at missing
        exact .pure ⟨_, _, rfl, .stuck h turning hi missing⟩
  refine fills.bind ?_ ?_
  · rintro _ t ⟨vs, result, ⟨⟩, advances⟩
    cases result with
    | error f => exact advances
    | ok more => exact advances
  · rintro f t ⟨_, _, ⟨⟩, -⟩

/-! ### Visits -/

/-- A visit of a caller, and the client that the cursor has then. -/
structure Visit (ω : Type) where
  use : Use
  client : Client ω

/-- What a visit gives, and what it leaves. -/
def Visit.make (env : Environment ω) (v : Visit ω) (x : Cursor) :
    Attempt (Option (List Value)) × Cursor × Client ω := v.use.perform env (x, v.client)

/-- A cursor after visits. -/
def after (env : Environment ω) (x : Cursor) (visits : List (Visit ω)) : Cursor :=
  visits.foldl (fun x v => (v.make env x).2.1) x

/-- The row that a visit delivers, if it does. -/
def rowOf : Attempt (Option (List Value)) → List (List Value)
  | .ok (some row) => [row]
  | _ => []

/-- The rows that visits deliver. -/
def delivered (env : Environment ω) (x : Cursor) : List (Visit ω) → List (List Value)
  | [] => []
  | v :: visits => rowOf (v.make env x).1 ++ delivered env (v.make env x).2.1 visits

section Append

variable (env : Environment ω) (x : Cursor) (visits more : List (Visit ω)) (v : Visit ω)

theorem after_cons : after env x (v :: more) = after env (v.make env x).2.1 more := rfl

theorem delivered_cons :
    delivered env x (v :: more) = rowOf (v.make env x).1 ++ delivered env (v.make env x).2.1 more := rfl

theorem after_append : after env x (visits ++ more) = after env (after env x visits) more :=
  List.foldl_append

theorem after_concat : after env x (visits ++ [v]) = (v.make env (after env x visits)).2.1 :=
  after_append env x visits [v]

theorem delivered_append :
    delivered env x (visits ++ more) = delivered env x visits ++ delivered env (after env x visits) more := by
  induction visits generalizing x with
  | nil => rfl
  | cons v visits ih =>
    rw [List.cons_append, delivered_cons, delivered_cons, after_cons, ih, List.append_assoc]

theorem delivered_concat :
    delivered env x (visits ++ [v]) = delivered env x visits ++ rowOf (v.make env (after env x visits)).1 := by
  rw [delivered_append]
  exact congrArg _ (List.append_nil _)

end Append

/-- One cursor comes from another: it reads the same result set, and has not gone back. -/
structure Continues (x x' : Cursor) : Prop where
  handle : x'.handle = x.handle
  columns : x'.columns = x.columns
  total : x'.total = x.total
  fetchBytes : x'.fetchBytes = x.fetchBytes
  rowPointer : x.rowPointer ≤ x'.rowPointer

instance : IsPreorder Cursor Continues where
  refl _ := ⟨rfl, rfl, rfl, rfl, Nat.le_refl _⟩
  trans _ _ _ h h' := ⟨h'.handle.trans h.handle, h'.columns.trans h.columns, h'.total.trans h.total,
    h'.fetchBytes.trans h.fetchBytes, Nat.le_trans h.rowPointer h'.rowPointer⟩

theorem Turning.continues {r : Attempt Unit} {x' : Cursor} {c' : Client ω}
    (h : Turning env x c r x' c') : Continues x x' ∧ x'.rowPointer = x.rowPointer := by
  cases h with
  | held => exact ⟨refl_of Continues x, rfl⟩
  | fetched _ fetching =>
    cases fetching with
    | turned => exact ⟨⟨rfl, rfl, rfl, rfl, Nat.le_refl _⟩, rfl⟩
    | failed => exact ⟨refl_of Continues x, rfl⟩

theorem Advances.continues {row : List Value} {r : Attempt (Option (List Value))} {x' : Cursor}
    {c' : Client ω} (h : Advances env x c row r x' c') :
    Continues x x' ∧ x'.rowPointer = x.rowPointer + (rowOf r).length := by
  cases h with
  | finished => exact ⟨refl_of Continues x, rfl⟩
  | unfetched => exact ⟨refl_of Continues x, rfl⟩
  | stuck _ turning => exact turning.continues
  | @passed _ x' _ _ turning =>
    obtain ⟨continues, same⟩ := turning.continues
    have further : Continues x' x'.pass := ⟨rfl, rfl, rfl, rfl, Nat.le_succ _⟩
    exact ⟨trans_of Continues continues further, congrArg (· + 1) same⟩

/-- Closing a cursor leaves it where it stands. -/
theorem ends_closed (env : Environment ω) (x : Cursor) (c : Client ω) :
    Ends (Use.close.perform env) (x, c) fun r t => rowOf r = [] ∧ ∃ b, t.1 = { x with isClosed := b } := by
  have closes : Ends (Cursor.close env) (x, c) fun _ t => ∃ b, t.1 = { x with isClosed := b } := by
    refine .object (.ite (fun _ => .pure ⟨x.isClosed, rfl⟩) fun _ => .change ?_)
    refine .ite (fun _ => .pure ⟨true, rfl⟩) fun _ => ?_
    exact .actSession (.heldOfAttempt (fun _ _ => ⟨true, rfl⟩) fun _ _ => ⟨true, rfl⟩)
  exact closes.bind (fun _ _ h => .pure ⟨rfl, h⟩) fun _ _ h => ⟨rfl, h⟩

/-! ### Where a cursor stands -/

/-- Where the page that a cursor holds comes from: it is the first one, or the reply to the request
that the cursor made in one of the visits, for the rows from the one on that was wanted then. -/
inductive Origin (env : Environment ω) (x : Cursor) (visits : List (Visit ω)) :
    Nat → List (List Value) → Prop
  | first : Origin env x visits 0 x.page
  | fetched {before v behind payload bs entries page c'} (split : visits = before ++ v :: behind)
      (answers : Answers env (after env x before).request v.client payload bs entries c')
      (read : answer ResultPage.ofValue entries = .ok page)
      (turned : (after env x (before ++ [v])).page = page.data) :
    Origin env x visits (after env x before).rowPointer page.data

theorem Origin.append {visits : List (Visit ω)} {p : Nat} {data : List (List Value)}
    (h : Origin env x visits p data) (more : List (Visit ω)) : Origin env x (visits ++ more) p data := by
  cases h with
  | first => exact .first
  | fetched split answers read turned =>
    exact .fetched (by rw [split, List.append_assoc]; rfl) answers read turned

/-- A cursor that began at its first row, after visits: its page was asked for at a position,
and its pointers are that position apart. -/
structure Placed (env : Environment ω) (x : Cursor) (visits : List (Visit ω)) (x' : Cursor) : Prop where
  continues : Continues x x'
  within : x'.rowPointer ≤ x.total.toNat
  count : x'.rowPointer = (delivered env x visits).length
  place : ∃ p, x'.rowPointer = p + x'.pagePointer ∧ Origin env x visits p x'.page

theorem atEnd_eq_false : x.atEnd = false ↔ (x.rowPointer : Int) < x.total := by
  simp only [atEnd, Bool.or_eq_false_iff, decide_eq_false_iff_not]
  omega

theorem Advances.within {row : List Value} {r : Attempt (Option (List Value))} {x' : Cursor}
    {c' : Client ω} (h : Advances env x c row r x' c') (within : x.rowPointer ≤ x.total.toNat) :
    x'.rowPointer ≤ x.total.toNat := by
  have moved := h.continues.2
  cases h with
  | finished => exact within
  | unfetched => exact within
  | stuck => rwa [moved]
  | passed h =>
    have more := atEnd_eq_false.1 h
    have moved : _ = x.rowPointer + 1 := moved
    omega

/-- Once the next row is held, the pointers are apart by the position of the page, be it the page
that was held before or a new one. -/
theorem Placed.turning {visits : List (Visit ω)} {v : Visit ω} {x' : Cursor} {c' : Client ω}
    (h : Placed env x visits (after env x visits))
    (turning : Turning env (after env x visits) v.client (.ok ()) x' c')
    (page : (after env x (visits ++ [v])).page = x'.page) :
    ∃ p, x'.rowPointer = p + x'.pagePointer ∧ Origin env x (visits ++ [v]) p x'.page := by
  cases turning with
  | held =>
    obtain ⟨p, place, origin⟩ := h.place
    exact ⟨p, place, origin.append _⟩
  | fetched _ fetching =>
    obtain ⟨answers, read⟩ := fetching
    exact ⟨_, rfl, .fetched rfl answers read page⟩

theorem placed_concat {visits : List (Visit ω)} (h : Placed env x visits (after env x visits))
    (v : Visit ω) : Placed env x (visits ++ [v]) (after env x (visits ++ [v])) := by
  have within : (after env x visits).rowPointer ≤ (after env x visits).total.toNat := by
    rw [h.continues.total]
    exact h.within
  have made := after_concat env x visits v
  have given := delivered_concat env x visits v
  obtain ⟨row | _, client⟩ := v
  · have advances : Advances env (after env x visits) client row _ _ _ :=
      ends_fill env row (after env x visits) client
    change _ = ((Use.fill row).perform env (after env x visits, client)).2.1 at made
    change _ = _ ++ rowOf ((Use.fill row).perform env (after env x visits, client)).1 at given
    generalize (Use.fill row).perform env (after env x visits, client) = t at advances made given
    obtain ⟨r, x', c'⟩ := t
    obtain ⟨continues, moved⟩ := advances.continues
    refine ⟨?_, ?_, ?_, ?_⟩
    · rw [made]
      exact trans_of Continues h.continues continues
    · rw [made, ← h.continues.total]
      exact advances.within within
    · rw [made, given, List.length_append, ← h.count]
      exact moved
    · cases advances with
      | finished | unfetched =>
        obtain ⟨p, place, origin⟩ := h.place
        rw [made]
        exact ⟨p, place, origin.append _⟩
      | stuck _ turning =>
        rw [made]
        exact h.turning turning (congrArg page made)
      | @passed _ x' _ _ turning =>
        have page : (after env x (visits ++ [⟨.fill row, client⟩])).page = x'.page := by
          rw [made]
        obtain ⟨p, place, origin⟩ := h.turning turning page
        rw [made]
        exact ⟨p, congrArg (· + 1) place, origin⟩
  · obtain ⟨nothing, b, closed⟩ := ends_closed env (after env x visits) client
    change _ = (Use.close.perform env (after env x visits, client)).2.1 at made
    change _ = _ ++ rowOf (Use.close.perform env (after env x visits, client)).1 at given
    rw [closed] at made
    rw [nothing, List.append_nil] at given
    obtain ⟨p, place, origin⟩ := h.place
    rw [made]
    refine ⟨⟨h.continues.handle, h.continues.columns, h.continues.total, h.continues.fetchBytes,
      h.continues.rowPointer⟩, h.within, ?_, p, place, origin.append _⟩
    rw [given]
    exact h.count

theorem placed_after (h₁ : x.rowPointer = 0) (h₂ : x.pagePointer = 0) (visits : List (Visit ω)) :
    Placed env x visits (after env x visits) := by
  -- by induction on the visits from behind: the last one is made on what all others left
  induction visits using List.reverseRecOn with
  | nil =>
    refine ⟨refl_of Continues x, ?_, h₁, 0, ?_, .first⟩
    · show x.rowPointer ≤ _
      rw [h₁]
      exact Nat.zero_le _
    · show x.rowPointer = 0 + x.pagePointer
      rw [h₁, h₂]
  | append_singleton visits v ih => exact placed_concat ih v

/-! ### What a visit does -/

theorem value_eq_ok {i : Nat} {v : Value} (h : x.value i = .ok v) :
    ∃ cell column, x.page[i]?.bind (·[x.pagePointer]?) = some cell ∧ x.columns[i]? = some column ∧
      Parameter.ofResult cell column.dataType = .ok v := by
  unfold value at h
  cases hc : x.page[i]?.bind (·[x.pagePointer]?) with
  | none => rw [hc] at h; cases h
  | some cell =>
    rw [hc] at h
    cases hj : x.columns[i]? with
    | none => rw [hj] at h; cases h
    | some column =>
      rw [hj] at h
      exact ⟨cell, column, rfl, rfl, h⟩

/-- A client wrote nothing, or the one frame that asks for the page that begins with the next
row. -/
def AsksOnce (env : Environment ω) (x : Cursor) (c c' : Client ω) : Prop :=
  c'.frames = c.frames ∨ ∃ payload, encode env.codec c.session.compressing x.request = .ok payload ∧
    c'.frames = c.frames ++ [⟨payload, c.session.compressing⟩]

theorem Turning.asksOnce {r : Attempt Unit} {x' : Cursor} {c' : Client ω}
    (h : Turning env x c r x' c') : AsksOnce env x c c' := by
  cases h with
  | held => exact .inl rfl
  | fetched _ fetching =>
    cases fetching with
    | turned _ _ _ tried => exact tried.frames
    | failed tried =>
      obtain rfl | tried := tried
      · exact .inl rfl
      · exact tried.frames

theorem Advances.asksOnce {row : List Value} {r : Attempt (Option (List Value))} {x' : Cursor}
    {c' : Client ω} (h : Advances env x c row r x' c') : AsksOnce env x c c' := by
  cases h with
  | finished => exact .inl rfl
  | unfetched _ needs tried => exact Turning.asksOnce (.fetched needs (.failed (f := .fault .badValue) tried))
  | stuck _ turning => exact turning.asksOnce
  | passed _ turning => exact turning.asksOnce

/-- If the page of the next row cannot be fetched, that is told, and the cursor is what it was. -/
theorem ends_fill_unfetched {f : Failure} (row : List Value) (more : x.atEnd = false)
    (needs : x.needsPage = true) (failed : (fetch env (x, c)).1 = .error f) :
    Ends ((Use.fill row).perform env) (x, c) fun r t => r = .error f ∧ t.1 = x := by
  have fetches : Ends (if x.needsPage then fetch env else pure ()) (x, c) fun r t =>
      r = .error f ∧ t.1 = x := by
    rw [if_pos needs]
    refine ⟨failed, ?_⟩
    have fetching : Fetching env x c _ _ _ := ends_fetching env x c
    generalize fetch env (x, c) = t at failed fetching ⊢
    obtain ⟨r, x', c'⟩ := t
    cases failed
    cases fetching with
    | failed => rfl
  have fills : Ends (nextInto env row) (x, c) fun r t => r = .ok (row, .error f) ∧ t.1 = x := by
    refine .object (.ite (fun atEnd => nomatch more.symm.trans atEnd) fun _ => .heldAttempt fetches ?_)
    rintro _ t ⟨rfl, same⟩
    exact .pure ⟨rfl, same⟩
  refine fills.bind ?_ ?_
  · rintro _ t ⟨⟨⟩, same⟩
    exact ⟨rfl, same⟩
  · rintro g t ⟨⟨⟩, -⟩

/-- At most so many rows that are left are the rows of further visits, one after the other. -/
theorem ends_upTo (env : Environment ω) (n : Nat) (x : Cursor) (c : Client ω) :
    Ends (upTo env n) (x, c) fun r t => ∃ more : List (Visit ω), t.1 = after env x more ∧
      ∀ rows, r = .ok rows →
        delivered env x more = rows ∧ (rows.length = n ∨ t.1.atEnd = true) := by
  induction n generalizing x c with
  | zero =>
    refine .pure ⟨[], rfl, ?_⟩
    rintro _ ⟨⟩
    exact ⟨rfl, .inl rfl⟩
  | succ n ih =>
    let v : Visit ω := ⟨.fill (x.columns.map fun _ => .null), c⟩
    have next : Ends (next env) (x, c) fun r t =>
        Advances env x c (x.columns.map fun _ => .null) r t.1 t.2 ∧
          r = (v.make env x).1 ∧ t.1 = (v.make env x).2.1 := by
      unfold Ends
      rw [next_apply]
      exact ⟨ends_fill env _ x c, rfl, rfl⟩
    refine next.bind ?_ ?_
    · rintro row ⟨x', c'⟩ ⟨advances, result, left⟩
      have left : x' = (v.make env x).2.1 := left
      have continued (more : List (Visit ω)) : after env x (v :: more) = after env x' more := by
        rw [after_cons, left]
      have prolonged (more : List (Visit ω)) :
          delivered env x (v :: more) = rowOf (.ok row) ++ delivered env x' more := by
        rw [delivered_cons, left, result]
      cases row with
      | none =>
        refine .pure ⟨[v], (continued []).symm, ?_⟩
        rintro _ ⟨⟩
        cases advances with
        | finished h => exact ⟨prolonged [], .inr h⟩
      | some row =>
        refine (ih x' c').bind ?_ ?_
        · rintro rows t ⟨more, left', whole⟩
          obtain ⟨given, ends⟩ := whole rows rfl
          refine .pure ⟨v :: more, left'.trans (continued more).symm, ?_⟩
          rintro _ ⟨⟩
          refine ⟨?_, ends.imp_left (congrArg (· + 1))⟩
          rw [prolonged, given]
          rfl
        · rintro f t ⟨more, left', -⟩
          exact ⟨v :: more, left'.trans (continued more).symm, fun _ h => nomatch h⟩
    · rintro f t ⟨-, -, left⟩
      exact ⟨[v], left, fun _ h => nomatch h⟩

/-! ### The reading -/

/-- A cursor whose reading began at its first row is never short, long or misaligned, whatever was
done with it. -/
structure Steadfast (env : Environment ω) (x : Cursor) (visits : List (Visit ω)) : Prop where
  /-- it knows where it stands: how many rows it delivered, and from where on its page was asked
  for -/
  placed : Placed env x visits (after env x visits)
  /-- the next visit for a row either finds the end, or the page of the row cannot be fetched, or
  the page lacks the row, or the row is delivered -/
  advances : ∀ (row : List Value) (c : Client ω),
    Ends ((Use.fill row).perform env) (after env x visits, c) fun r t =>
      Advances env (after env x visits) c row r t.1 t.2 ∧ AsksOnce env (after env x visits) c t.2
  /-- the values of a row are read where it stands: in the page that was asked for from `p` on, at
  the place that tells how far the row is from `p` -/
  delivers : ∀ (row : List Value) (c : Client ω) (vs : List Value),
    ((Use.fill row).perform env (after env x visits, c)).1 = .ok (some vs) →
      ∃ p data, p ≤ (delivered env x visits).length ∧ Origin env x (visits ++ [⟨.fill row, c⟩]) p data ∧
        vs.length = row.length ∧ ∀ (i : Nat) (v : Value), vs[i]? = some v →
          ∃ (cell : Value) (column : Column),
            data[i]?.bind (·[(delivered env x visits).length - p]?) = some cell ∧
              x.columns[i]? = some column ∧ Parameter.ofResult cell column.dataType = .ok v
  /-- the end is told only when all rows were delivered -/
  ends : ∀ (row : List Value) (c : Client ω),
    ((Use.fill row).perform env (after env x visits, c)).1 = .ok none →
      (delivered env x visits).length = x.total.toNat
  /-- it never goes back, and a visit that fails does not move it on -/
  forward : ∀ v : Visit ω, (after env x visits).rowPointer ≤ (after env x (visits ++ [v])).rowPointer
  keeps : ∀ (v : Visit ω) (f : Failure), (v.make env (after env x visits)).1 = .error f →
    (after env x (visits ++ [v])).rowPointer = (after env x visits).rowPointer
  /-- if the page of the next row cannot be fetched, nothing of the cursor changes, so that the
  next visit asks for the same page -/
  retries : ∀ (row : List Value) (c : Client ω) (f : Failure), (after env x visits).atEnd = false →
    (after env x visits).needsPage = true → (fetch env (after env x visits, c)).1 = .error f →
      Ends ((Use.fill row).perform env) (after env x visits, c) fun r t =>
        r = .error f ∧ t.1 = after env x visits
  /-- all rows that are left are the rows of further visits, and with them all were delivered -/
  rest : ∀ c : Client ω, Ends (rest env) (after env x visits, c) fun r t =>
    ∃ more : List (Visit ω), t.1 = after env x (visits ++ more) ∧ ∀ rows, r = .ok rows →
      delivered env x (visits ++ more) = delivered env x visits ++ rows ∧
        (delivered env x (visits ++ more)).length = x.total.toNat

theorem Placed.ends {visits : List (Visit ω)} {x' : Cursor} (h : Placed env x visits x')
    (atEnd : x'.atEnd = true) : (delivered env x visits).length = x.total.toNat := by
  have within := h.within
  have total := h.continues.total
  have count := h.count
  simp only [Cursor.atEnd, Bool.or_eq_true, decide_eq_true_eq] at atEnd
  omega

theorem Placed.rest {visits more : List (Visit ω)} {x' : Cursor} (h : Placed env x visits x')
    (all : (delivered env x' more).length = x'.remaining) :
    (delivered env x visits).length + (delivered env x' more).length = x.total.toNat := by
  have within := h.within
  have total := h.continues.total
  have count := h.count
  unfold remaining at all
  omega

/-- Whatever the server says, a cursor over a result set is steadfast. -/
theorem cursor_steadfast (env : Environment ω) (s : Session) (first : ResultPage)
    (visits : List (Visit ω)) : Steadfast env (ofPage s first) visits := by
  -- of the cursor all that matters is that it begins at its first row
  suffices begins : ∀ x : Cursor, x.rowPointer = 0 → x.pagePointer = 0 → Steadfast env x visits from
    begins (ofPage s first) rfl rfl
  intro x h₁ h₂
  have placed (visits : List (Visit ω)) : Placed env x visits (after env x visits) :=
    placed_after h₁ h₂ visits
  have fills (row : List Value) (c : Client ω) :
      Ends ((Use.fill row).perform env) (after env x visits, c) fun r t =>
        Advances env (after env x visits) c row r t.1 t.2 := ends_fill env row _ c
  have count (v : Visit ω) : (after env x (visits ++ [v])).rowPointer =
      (after env x visits).rowPointer + (rowOf (v.make env (after env x visits)).1).length := by
    rw [(placed _).count, (placed _).count, delivered_concat, List.length_append]
  refine ⟨placed visits, ?_, ?_, ?_, ?_, ?_, ?_, ?_⟩
  · exact fun row c => (fills row c).mono fun _ _ h => ⟨h, h.asksOnce⟩
  · intro row c vs given
    have made := after_concat env x visits ⟨.fill row, c⟩
    change _ = ((Use.fill row).perform env (after env x visits, c)).2.1 at made
    have advances : Advances env (after env x visits) c row _ _ _ := fills row c
    generalize (Use.fill row).perform env (after env x visits, c) = t at advances given made
    obtain ⟨r, y, c'⟩ := t
    cases given
    cases advances with
    | @passed _ y _ _ turning length values =>
      -- the values are those of the page as it was turned to, before the row was passed
      have page : (after env x (visits ++ [⟨.fill row, c⟩])).page = y.page := by rw [made]
      obtain ⟨p, place, origin⟩ := (placed visits).turning turning page
      have here : y.rowPointer = (delivered env x visits).length :=
        turning.continues.2.trans (placed visits).count
      refine ⟨p, y.page, by omega, origin, length, fun i v hv => ?_⟩
      obtain ⟨cell, column, hcell, hcolumn, hv⟩ := value_eq_ok (values i v hv)
      have columns : y.columns = x.columns :=
        turning.continues.1.columns.trans (placed visits).continues.columns
      rw [columns] at hcolumn
      have offset : (delivered env x visits).length - p = y.pagePointer := by omega
      rw [offset]
      exact ⟨cell, column, hcell, hcolumn, hv⟩
  · intro row c given
    have advances : Advances env (after env x visits) c row _ _ _ := fills row c
    generalize (Use.fill row).perform env (after env x visits, c) = t at advances given
    obtain ⟨r, y, c'⟩ := t
    cases given
    cases advances with
    | finished h => exact (placed visits).ends h
  · intro v
    rw [count]
    exact Nat.le_add_right _ _
  · intro v f failed
    rw [count, failed]
    rfl
  · exact fun row c f more needs failed => ends_fill_unfetched row more needs failed
  · refine fun c => .object ((ends_upTo env _ (after env x visits) c).mono ?_)
    rintro r t ⟨more, left, whole⟩
    refine ⟨more, left.trans (after_append env x visits more).symm, ?_⟩
    rintro rows rfl
    obtain ⟨rfl, all⟩ := whole rows rfl
    have both := delivered_append env x visits more
    refine ⟨both, ?_⟩
    obtain all | atEnd := all
    · rw [both, List.length_append]
      exact (placed visits).rest all
    · rw [left, ← after_append] at atEnd
      exact (placed (visits ++ more)).ends atEnd

end ExaWire.Cursor
