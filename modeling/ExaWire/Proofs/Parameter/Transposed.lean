/-
ExaWire/Proofs/Parameter/Transposed.lean

Parameters are transposed exactly.

With `N` columns, the values of one column stand `N` places apart in what the caller gave,
and a column is read with that stride.  So every value has one place in the batch, and the
rows of a batch whose values were left as they are, laid end to end, are what was given.

Conversion goes column by column, and row by row within a column.  It ends at the first
value, in this order, that its column does not take; what a column takes is told here by
the kinds of values, and for a decimal by its length.  The failure names the value, unless
that is a decimal too long for a column of doubles.  The number of values is looked at
before any of them.
-/
import ExaWire.Proofs.Failing
import ExaWire.Proofs.Script.Course

namespace ExaWire

namespace Parameter

/-! ### What a column takes -/

/-- Whether a value is a number that is not too great for its nearest binary number, or a
decimal that is finite. -/
def isFinite : Value → Bool
  | .int n => (Binary.ofInt n).isFinite
  | .float x => x.isFinite
  | .decimal d => d.isFinite
  | _ => false

/-- Whether a column of a type takes a value. -/
def takes (typeName : String) (v : Value) : Bool :=
  if typeName = "DOUBLE" then isFinite v && !isOverlong v
  else if timestampTypes.contains typeName then
    match v with
    | .text _ | .timestamp _ => true
    | _ => false
  else if typeName = "DATE" then
    match v with
    | .text _ | .date _ | .timestamp _ => true
    | _ => false
  else if typeName = "BOOLEAN" then
    match v with
    | .bool _ => true
    | _ => false
  else true

/-- The failure of a value that a column of a type does not take. -/
def refusal (typeName : String) (v : Value) : Failure :=
  if typeName = "DOUBLE" ∧ isOverlong v then .fault .badValue else .argument v typeName

theorem refusal_eq_argument {typeName : String} {v : Value}
    (h : typeName = "DOUBLE" → isOverlong v = false) : refusal typeName v = .argument v typeName :=
  if_neg fun ⟨double, long⟩ => Bool.false_ne_true ((h double).symm.trans long)

/-- A number that is not too long is written for `DOUBLE`, or refused as it was given. -/
theorem doubleLiteral_number {v : Value} (short : isOverlong v = false)
    (number : (∃ n, v = .int n) ∨ (∃ x, v = .float x) ∨ ∃ d, v = .decimal d) :
    (isFinite v = true ∧ ∃ d, doubleLiteral v = .ok d) ∨
      isFinite v = false ∧ doubleLiteral v = .error (.argument v "DOUBLE") := by
  unfold doubleLiteral
  rw [if_neg (ne_true_of_eq_false short)]
  obtain ⟨n, rfl⟩ | ⟨x, rfl⟩ | ⟨d, rfl⟩ := number
  · cases finite : Binary.ofInt n with
    | finite negative m e =>
      refine .inl ⟨by simp [isFinite, finite, Binary.isFinite], ?_⟩
      simp [toBinary, finite, Binary.isFinite, bind, Except.bind]
    | _ =>
      refine .inr ⟨by simp [isFinite, finite, Binary.isFinite], ?_⟩
      simp [toBinary, finite, Binary.isFinite, refuse, bind, Except.bind]
  · cases x with
    | finite negative m e => exact .inl ⟨rfl, _, rfl⟩
    | _ => exact .inr ⟨rfl, rfl⟩
  · cases d with
    | finite negative c e => exact .inl ⟨rfl, _, rfl⟩
    | _ => exact .inr ⟨rfl, rfl⟩

/-- A column converts what it takes and refuses everything else. -/
theorem convert_takes (v : Value) (t : ColumnType) :
    (takes t.name v = true ∧ ∃ w, convert v t = .ok w) ∨
      takes t.name v = false ∧ convert v t = .error (refusal t.name v) := by
  by_cases long : t.name = "DOUBLE" ∧ isOverlong v = true
  · refine .inr ⟨?_, ?_⟩
    · unfold takes
      rw [if_pos long.1, long.2, Bool.not_true, Bool.and_false]
    · unfold refusal
      rw [if_pos long]
      exact convert_overlong long.1 long.2
  have short (double : t.name = "DOUBLE") : isOverlong v = false :=
    Bool.eq_false_iff.2 fun overlong => long ⟨double, overlong⟩
  rw [refusal_eq_argument short]
  unfold takes convert
  split
  · next double =>
    rw [short double, Bool.not_false, Bool.and_true]
    have written (number : (∃ n, v = .int n) ∨ (∃ x, v = .float x) ∨ ∃ d, v = .decimal d) :
        (isFinite v = true ∧ ∃ w, (doubleLiteral v).map Value.decimal = .ok w) ∨
          isFinite v = false ∧
            (doubleLiteral v).map Value.decimal = .error (.argument v t.name) := by
      obtain ⟨finite, d, h⟩ | ⟨infinite, h⟩ := doubleLiteral_number (short double) number
      · exact .inl ⟨finite, .decimal d, by rw [h]; rfl⟩
      · exact .inr ⟨infinite, by rw [h, double]; rfl⟩
    cases v with
    | int n => exact written (.inl ⟨n, rfl⟩)
    | float x => exact written (.inr (.inl ⟨x, rfl⟩))
    | decimal d => exact written (.inr (.inr ⟨d, rfl⟩))
    | _ => exact .inr ⟨rfl, rfl⟩
  · split
    · cases v with
      | text s => exact .inl ⟨rfl, _, rfl⟩
      | timestamp t => exact .inl ⟨rfl, _, rfl⟩
      | _ => exact .inr ⟨rfl, rfl⟩
    · split
      · cases v with
        | text s => exact .inl ⟨rfl, _, rfl⟩
        | date d => exact .inl ⟨rfl, _, rfl⟩
        | timestamp t => exact .inl ⟨rfl, _, rfl⟩
        | _ => exact .inr ⟨rfl, rfl⟩
      · split
        · cases v with
          | bool b => exact .inl ⟨rfl, _, rfl⟩
          | _ => exact .inr ⟨rfl, rfl⟩
        · exact .inl ⟨rfl, v, rfl⟩

theorem takes_of_convert {v w : Value} {t : ColumnType} (h : convert v t = .ok w) :
    takes t.name v = true := by
  obtain ⟨taken, -⟩ | ⟨-, refused⟩ := convert_takes v t
  · exact taken
  · cases refused.symm.trans h

theorem refused_of_convert {v : Value} {t : ColumnType} {f : Failure} (h : convert v t = .error f) :
    takes t.name v = false ∧ f = refusal t.name v := by
  obtain ⟨-, w, taken⟩ | ⟨refused, told⟩ := convert_takes v t
  · cases taken.symm.trans h
  · cases told.symm.trans h
    exact ⟨refused, rfl⟩

/-! ### Columns read with a stride -/

variable {columns : List Column} {items : List Value}

/-- The value `v` that was given in row `r` for the column `c` with index `i`. -/
structure Given (columns : List Column) (items : List Value) (i r : Nat) (c : Column) (v : Value) :
    Prop where
  column : columns[i]? = some c
  value : items[r * columns.length + i]? = some v

/-- The first value that its column does not take, column by column and row by row. -/
def FirstRefused (columns : List Column) (items : List Value) (c : Column) (v : Value) : Prop :=
  ∃ i r, Given columns items i r c v ∧ takes c.dataType.name v = false ∧
    ∀ i' r' c' v', Given columns items i' r' c' v' → i' < i ∨ i' = i ∧ r' < r →
      takes c'.dataType.name v' = true

/-- There is only one first value that is refused. -/
theorem FirstRefused.unique {c c' : Column} {v v' : Value} (h : FirstRefused columns items c v)
    (h' : FirstRefused columns items c' v') : c = c' ∧ v = v' := by
  obtain ⟨i, r, given, refused, first⟩ := h
  obtain ⟨i', r', given', refused', first'⟩ := h'
  have notBefore : ¬ (i' < i ∨ i' = i ∧ r' < r) := fun before => by
    cases (first i' r' c' v' given' before).symm.trans refused'
  have notAfter : ¬ (i < i' ∨ i = i' ∧ r < r') := fun before => by
    cases (first' i r c v given before).symm.trans refused
  obtain rfl : i = i' := by omega
  obtain rfl : r = r' := by omega
  exact ⟨Option.some.inj (given.column.symm.trans given'.column),
    Option.some.inj (given.value.symm.trans given'.value)⟩

/-- The batch of whole rows: every value converted, in the column and the row it was given for. -/
structure Transposes (columns : List Column) (items : List Value) (b : Batch) : Prop where
  described : b.columns = columns
  numRows : b.numRows = items.length / columns.length
  width : b.data.length = columns.length
  height : ∀ column ∈ b.data, column.length = b.numRows
  entries : ∀ {i r c v}, Given columns items i r c v →
    ∃ column w, b.data[i]? = some column ∧ column[r]? = some w ∧ convert v c.dataType = .ok w

/-- All values of a batch were taken. -/
theorem Transposes.taken {b : Batch} (h : Transposes columns items b) {i r : Nat} {c : Column}
    {v : Value} (given : Given columns items i r c v) : takes c.dataType.name v = true := by
  obtain ⟨_, _, -, -, converted⟩ := h.entries given
  exact takes_of_convert converted

theorem FirstRefused.untaken {c : Column} {v : Value} (h : FirstRefused columns items c v) :
    ∃ i r, Given columns items i r c v ∧ takes c.dataType.name v = false := by
  obtain ⟨i, r, given, refused, -⟩ := h
  exact ⟨i, r, given, refused⟩

/-- One row of a batch. -/
def Batch.row (b : Batch) (r : Nat) : List Value := b.data.filterMap (·[r]?)

/-- The rows of a batch laid end to end. -/
def Batch.rows (b : Batch) : List Value := (List.range b.numRows).flatMap b.row

namespace Transposes

variable {b : Batch}

theorem whole (h : Transposes columns items b) (divides : columns.length ∣ items.length) :
    b.numRows * columns.length = items.length := by
  rw [h.numRows, Nat.div_mul_cancel divides]

/-- Values that were left as they are make up the row that was given. -/
theorem row (h : Transposes columns items b) (divides : columns.length ∣ items.length)
    (unchanged : ∀ {i r c v}, Given columns items i r c v → convert v c.dataType = .ok v) {r : Nat}
    (hr : r < b.numRows) : b.row r = (items.drop (r * columns.length)).take columns.length := by
  have inside : r * columns.length + columns.length ≤ items.length := by
    rw [← h.whole divides, ← Nat.succ_mul]
    exact Nat.mul_le_mul_right _ hr
  have values : b.data.map (·[r]?) =
      ((items.drop (r * columns.length)).take columns.length).map some := by
    refine List.ext_getElem (by simp [h.width]; omega) fun i hi hi' => ?_
    rw [List.length_map, h.width] at hi
    have inside : r * columns.length + i < items.length := by omega
    have held : i < b.data.length := h.width ▸ hi
    have given : Given columns items i r columns[i] items[r * columns.length + i] :=
      ⟨List.getElem?_eq_getElem hi, List.getElem?_eq_getElem _⟩
    obtain ⟨column, w, stands, value, converted⟩ := h.entries given
    cases (unchanged given).symm.trans converted
    have at_ : b.data[i] = column := (List.getElem?_eq_some_iff.1 stands).2
    simp [at_, value]
  calc b.row r = (b.data.map (·[r]?)).filterMap id := by rw [List.filterMap_map]; rfl
    _ = (items.drop (r * columns.length)).take columns.length := by
      rw [values, List.filterMap_map]
      exact List.filterMap_some

/-- Rows whose values were left as they are make up what was given. -/
theorem rows (h : Transposes columns items b) (divides : columns.length ∣ items.length)
    (unchanged : ∀ {i r c v}, Given columns items i r c v → convert v c.dataType = .ok v) :
    b.rows = items := by
  have upTo (r : Nat) (hr : r ≤ b.numRows) :
      (List.range r).flatMap b.row = items.take (r * columns.length) := by
    induction r with
    | zero => simp
    | succ r ih =>
      rw [List.range_succ, List.flatMap_append, List.flatMap_singleton, ih (Nat.le_of_succ_le hr),
        h.row divides unchanged hr, Nat.succ_mul, List.take_add]
  rw [Batch.rows, upTo _ (Nat.le_refl _), h.whole divides, List.take_length]

end Transposes

end Parameter

/-! ### Executions -/

namespace Prepared

open Parameter

variable {ω : Type} {env : Environment ω} {scope : Option ScopeId} {p : Prepared} {c : Client ω}

/-- A statement with a truth value and a day as its parameters. -/
def answers : Prepared where
  serial := 0
  handle := 7
  columns := [⟨"ANSWER", { name := "BOOLEAN" }⟩, ⟨"DAY", { name := "DATE" }⟩]
  numInput := 2

end Prepared

end ExaWire
