/-
ExaWire/Proofs/Cursor/Reading.lean

Reading a result set page by page.

A cursor that has passed `n` rows and received `m` of them *holds* the rows from `n` up
to `m`: they stand in its page one after the other, from the page pointer on, and each
value stands in the column where it belongs.  Passing a row moves both pointers, and a
page is fetched only when no row is held any more, from the very row that is wanted;
so the rows held are always the next ones, however the server cuts its pages.
-/
import ExaWire.Cursor
import ExaWire.Proofs.Session.Answered

namespace ExaWire

open Network

variable {ω : Type} {env : Environment ω}

/-! ### Result sets -/

/-- Whether the values of a type are whole decimals, which the server may send as binary
numbers. -/
def ColumnType.isWhole (t : ColumnType) : Bool := t.name = "DECIMAL" && t.scale.isZero

/-- A result set as the server holds it. -/
structure ResultSet where
  handle : Int
  columns : List Column
  rows : List (List Value)
  /-- every row has one value for every column -/
  width : ∀ row ∈ rows, row.length = columns.length
  /-- a binary number in a column of whole decimals is not infinite, and JSON has no number
  without a value -/
  finite : ∀ row ∈ rows, ∀ (j : Nat) (x : Binary) (column : Column), row[j]? = some (.float x) →
    columns[j]? = some column → column.dataType.isWhole = true → x.isFinite = true

namespace ResultSet

variable (r : ResultSet) {n m j : Nat} {data : List (List Value)} {offset : Nat}

/-- The value in a row and a column. -/
def cell? (n j : Nat) : Option Value := r.rows[n]?.bind (·[j]?)

/-- The rows from `n` up to `m` stand in a page, which is made of columns, from a place on. -/
def Shows (data : List (List Value)) (offset n m : Nat) : Prop :=
  ∀ i : Nat, n + i < m → ∀ j < r.columns.length,
    data[j]?.bind (·[offset + i]?) = r.cell? (n + i) j

/-- Values that are delivered for a row, from its first column on. -/
def Gives (n : Nat) (vs : List Value) : Prop :=
  ∀ (j : Nat) (v : Value), vs[j]? = some v → ∃ cell column, r.cell? n j = some cell ∧
    r.columns[j]? = some column ∧ Parameter.ofResult cell column.dataType = .ok v

/-- A page that a result set begins with: it tells how many rows there are, and shows any number
of them, perhaps none. -/
structure IsFirstPage (r : ResultSet) (page : ResultPage) (size : Nat) : Prop where
  handle : page.handle = r.handle
  columns : page.columns = r.columns
  numRows : page.numRows = r.rows.length
  numRowsInMessage : page.numRowsInMessage = size
  within : size ≤ r.rows.length
  shows : r.Shows page.data 0 0 size

/-- A page that is fetched: some rows from one on, at least that one. -/
structure IsPage (r : ResultSet) (page : ResultPage) (start size : Nat) : Prop where
  numRows : page.numRows = size
  some : 0 < size
  within : start + size ≤ r.rows.length
  shows : r.Shows page.data 0 start (start + size)

/-- What the filling of a row gives when `n` rows were passed, and how many are passed then. -/
inductive Fills (r : ResultSet) (n : Nat) (row : List Value) : List Value × Attempt Bool → Nat → Prop
  /-- the next row, or as much of it as there is room for -/
  | next {vs} (hn : n < r.rows.length) (length : vs.length = row.length) (gives : r.Gives n vs) :
      Fills r n row (vs, .ok true) (n + 1)
  /-- a row with too much room is not filled, and nothing is passed -/
  | tooWide {vs f} (hn : n < r.rows.length) (wide : r.columns.length < row.length) :
      Fills r n row (vs, .error f) n
  | finished (hn : n = r.rows.length) : Fills r n row (row, .ok false) n

/-- What the reading of a whole row gives when `n` rows were passed, and how many are passed then. -/
inductive Reads (r : ResultSet) (n : Nat) : Option (List Value) → Nat → Prop
  | row {vs} (hn : n < r.rows.length) (length : vs.length = r.columns.length)
      (gives : r.Gives n vs) : Reads r n (some vs) (n + 1)
  | finished (hn : n = r.rows.length) : Reads r n none n

variable {r}

theorem Shows.pass (h : r.Shows data offset n m) : r.Shows data (offset + 1) (n + 1) m := by
  intro i hi j hj
  have next := h (i + 1) (by omega) j hj
  rw [Nat.add_assoc, Nat.add_assoc, Nat.add_comm 1 i]
  exact next

theorem Gives.length_le {vs : List Value} (h : r.Gives n vs) : vs.length ≤ r.columns.length := by
  refine Nat.le_of_not_lt fun wide => ?_
  obtain ⟨_, _, -, hcolumn, -⟩ := h _ _ (List.getElem?_eq_getElem wide)
  rw [List.getElem?_eq_none (Nat.le_refl _)] at hcolumn
  cases hcolumn

theorem exists_cell (hn : n < r.rows.length) (hj : j < r.columns.length) :
    ∃ cell, r.cell? n j = some cell := by
  have wide : j < r.rows[n].length := by
    rw [r.width _ (List.getElem_mem hn)]
    exact hj
  refine ⟨r.rows[n][j], ?_⟩
  rw [cell?, List.getElem?_eq_getElem hn]
  exact List.getElem?_eq_getElem wide

/-- Every value of a result set can be delivered. -/
theorem exists_ofResult {cell : Value} {column : Column} (hc : r.cell? n j = some cell)
    (hj : r.columns[j]? = some column) : ∃ v, Parameter.ofResult cell column.dataType = .ok v := by
  obtain ⟨row, hn, hr⟩ := Option.bind_eq_some_iff.1 hc
  cases cell with
  | float x =>
    by_cases whole : column.dataType.isWhole = true
    -- a binary number becomes an integer in a column of whole decimals, and stays elsewhere
    · have finite := r.finite row (List.mem_of_getElem? hn) j x column hr hj whole
      cases x with
      | finite negative significand exponent =>
        exact ⟨.int (Binary.truncate negative significand exponent), if_pos whole⟩
      | nan | infinite => cases finite
    · exact ⟨.float x, if_neg whole⟩
  | _ => exact ⟨_, rfl⟩

end ResultSet

/-! ### Cursors -/

namespace Cursor

variable {r : ResultSet} {s : Session} {n m j : Nat} {c : Cursor}

/-- A cursor of a session that has passed `n` rows of a result set and received `m` of them. -/
structure Holds (r : ResultSet) (s : Session) (n m : Nat) (c : Cursor) : Prop where
  serial : c.serial = s.serial
  fetchBytes : c.fetchBytes = s.config.fetchBytes
  handle : c.handle = r.handle
  columns : c.columns = r.columns
  total : c.total = r.rows.length
  rowPointer : c.rowPointer = n
  fetched : c.fetched = m
  page : r.Shows c.page c.pagePointer n m
  passed : n ≤ m
  received : m ≤ r.rows.length

theorem holds_ofPage {page : ResultPage} (h : r.IsFirstPage page n) :
    Holds r s 0 n (ofPage s page) where
  serial := rfl
  fetchBytes := rfl
  handle := h.handle
  columns := h.columns
  total := h.numRows
  rowPointer := rfl
  fetched := h.numRowsInMessage
  page := h.shows
  passed := Nat.zero_le n
  received := h.within

theorem Holds.atEnd (h : Holds r s n m c) : c.atEnd = true ↔ n = r.rows.length := by
  have passed := h.passed
  have received := h.received
  simp only [Cursor.atEnd, h.total, h.rowPointer, Bool.or_eq_true, decide_eq_true_eq]
  omega

theorem Holds.needsPage (h : Holds r s n m c) :
    c.needsPage = true ↔ n = m ∧ n < r.rows.length := by
  simp only [Cursor.needsPage, h.total, h.rowPointer, h.fetched, Bool.and_eq_true,
    decide_eq_true_eq]
  omega

theorem Holds.pass (h : Holds r s n m c) (hn : n < m) : Holds r s (n + 1) m c.pass where
  serial := h.serial
  fetchBytes := h.fetchBytes
  handle := h.handle
  columns := h.columns
  total := h.total
  rowPointer := congrArg (· + 1) h.rowPointer
  fetched := h.fetched
  page := h.page.pass
  passed := hn
  received := h.received

/-! ### Values -/

theorem Holds.cell (h : Holds r s n m c) (hn : n < m) (hj : j < r.columns.length) :
    c.page[j]?.bind (·[c.pagePointer]?) = r.cell? n j := h.page 0 hn j hj

/-- Every column of the next row has a value, which is the one to be delivered. -/
theorem Holds.exists_value (h : Holds r s n m c) (hn : n < m) (hj : j < r.columns.length) :
    ∃ v cell column, c.value j = .ok v ∧ r.cell? n j = some cell ∧ r.columns[j]? = some column ∧
      Parameter.ofResult cell column.dataType = .ok v := by
  have received := h.received
  obtain ⟨cell, hc⟩ := ResultSet.exists_cell (show n < r.rows.length by omega) hj
  have hcolumn : r.columns[j]? = some r.columns[j] := List.getElem?_eq_getElem hj
  obtain ⟨v, hv⟩ := ResultSet.exists_ofResult hc hcolumn
  refine ⟨v, cell, r.columns[j], ?_, hc, hcolumn, hv⟩
  unfold value
  rw [h.cell hn hj, hc, h.columns, hcolumn]
  exact hv

/-- There is no value behind the last column. -/
theorem Holds.value_error (h : Holds r s n m c) (hj : r.columns.length ≤ j) :
    ∃ f, c.value j = .error f := by
  unfold value
  rw [h.columns, List.getElem?_eq_none hj]
  cases c.page[j]?.bind (·[c.pagePointer]?) with
  | none => exact ⟨_, rfl⟩
  | some v => exact ⟨_, rfl⟩

theorem Holds.gives (h : Holds r s n m c) (hn : n < m) {v : Value} (hv : c.value j = .ok v) :
    ∃ cell column, r.cell? n j = some cell ∧ r.columns[j]? = some column ∧
      Parameter.ofResult cell column.dataType = .ok v := by
  by_cases hj : j < r.columns.length
  · obtain ⟨w, cell, column, hw, further⟩ := h.exists_value hn hj
    cases hw.symm.trans hv
    exact ⟨cell, column, further⟩
  · obtain ⟨f, hf⟩ := h.value_error (Nat.le_of_not_lt hj)
    cases hf.symm.trans hv

/-- How the filling of a row from a column on ends. -/
inductive Filled (c : Cursor) (column : Nat) (row : List Value) : List Value × Attempt Unit → Prop
  | whole {vs} (length : vs.length = row.length)
      (values : ∀ i v, vs[i]? = some v → c.value (column + i) = .ok v) :
      Filled c column row (vs, .ok ())
  | stuck {vs f} (i : Nat) (hi : i < row.length) (missing : c.value (column + i) = .error f) :
      Filled c column row (vs, .error f)

theorem filled_fill (c : Cursor) (column : Nat) (row : List Value) :
    Filled c column row (c.fill column row) := by
  -- by induction on the row, from any column on: the rest is filled from the next column on
  induction row generalizing column with
  | nil => exact .whole rfl fun i v hv => by simp at hv
  | cons old rest ih =>
    unfold fill
    cases hv : c.value column with
    | error f => exact .stuck 0 (Nat.succ_pos _) hv
    | ok v =>
      have further := ih (column + 1)
      generalize c.fill (column + 1) rest = filled at further
      cases further with
      | whole length values =>
        refine .whole (congrArg (· + 1) length) fun i w hw => ?_
        cases i with
        | zero =>
          cases hw
          exact hv
        | succ i =>
          rw [Nat.add_comm i 1, ← Nat.add_assoc]
          exact values i w hw
      | stuck i hi missing =>
        refine .stuck (i + 1) (Nat.succ_lt_succ hi) ?_
        rw [Nat.add_comm i 1, ← Nat.add_assoc]
        exact missing

end Cursor

end ExaWire
