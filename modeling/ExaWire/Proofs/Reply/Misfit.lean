/-
ExaWire/Proofs/Reply/Misfit.lean

What is wrong with data that cannot be read.

The data of a reply may be any value.  A record reads its fields as counts, as lists and as
objects, and each reading that fails either tells so by a failure of this library
(`Failure.tellsOfData`) or ends in a fault.  Every record has one relation, its `Misfit`, of
the data and of the fault: it names the field that does not fit.  One lemma for each record
says that there is no other reason for a fault.

Afterwards come the first result of an execution, which is read when the reply has long been
taken for good, and the cells of a page.
-/
import ExaWire.Proofs.Session.Beginning
import ExaWire.Cursor
import ExaWire.Record

namespace ExaWire

variable {α : Type}

/-- Whether a failure tells that the data of a reply cannot be read. -/
def Failure.tellsOfData : Failure → Bool
  | .protocol decoding _ _ _ => decoding
  | .told .malformedResult _ _ => true
  | _ => false

/-- A failure tells that data cannot be read, or it is a fault for which there is a reason. -/
def Failure.Explained (P : Fault → Prop) (f : Failure) : Prop :=
  f.tellsOfData = true ∨ ∃ x, f = .fault x ∧ P x

theorem Failure.Explained.imp {P Q : Fault → Prop} {f : Failure} (hf : f.Explained P)
    (h : ∀ x, P x → Q x) : f.Explained Q :=
  hf.imp_right fun ⟨x, e, hx⟩ => ⟨x, e, h x hx⟩

namespace Value

/-! ### Counts -/

/-- Whether a value is of a kind that tells a number. -/
def isNumeral : Value → Bool
  | .bool _ | .int _ | .float _ | .decimal _ | .text _ | .bytes _ => true
  | _ => false

/-- Whether a value tells a number that cannot be made out. -/
def isIllegible : Value → Bool
  | .float .nan | .decimal (.nan _ _ _) => true
  | .text s => (readInt? s).isNone
  | .bytes bs => !isAscii bs || (readInt? (latin bs)).isNone
  | _ => false

/-- Why a value that was given is no count. -/
inductive Uncountable (v : Value) : Fault → Prop
  | infinite (h : v.isInfinite = true) : Uncountable v .tooGreat
  | illegible (given : v.isGiven = true) (h : v.isIllegible = true) : Uncountable v .badValue
  | unsuited (given : v.isGiven = true) (h : v.isNumeral = false) : Uncountable v .wrongKind

theorem fails_toInt_given {v : Value} (given : v.isGiven = true) :
    Fails (Failure.Explained v.Uncountable) v.toInt := by
  have explain {x : Fault} (h : v.Uncountable x) : (Failure.fault x).Explained v.Uncountable :=
    .inr ⟨x, rfl, h⟩
  cases v with
  | bool b => exact .ok _
  | int n => exact .ok _
  | float b =>
    cases b with
    | finite negative m e => exact .ok _
    | infinite negative => exact .fault (explain (.infinite rfl))
    | nan => exact .fault (explain (.illegible given rfl))
  | decimal d =>
    cases d with
    | finite negative c e => exact .ok _
    | infinite negative => exact .fault (explain (.infinite rfl))
    | nan => exact .fault (explain (.illegible given rfl))
  | text s =>
    show Fails _ (orBadValue (readInt? s))
    cases e : readInt? s with
    | none => exact .fault (explain (.illegible given (by simp [isIllegible, e])))
    | some n => exact .ok n
  | bytes bs =>
    show Fails _ (if isAscii bs then orBadValue (readInt? (latin bs)) else fault .badValue)
    split
    · cases e : readInt? (latin bs) with
      | none => exact .fault (explain (.illegible given (by simp [isIllegible, e])))
      | some n => exact .ok n
    · next other => exact .fault (explain (.illegible given (by simp [isIllegible, other])))
  | _ => exact .fault (explain (.unsuited given rfl))

/-- A value that is read as a count, or else as a count that is known. -/
theorem fails_orElse_toInt (v : Value) (n : Int) :
    Fails (Failure.Explained v.Uncountable) (v.orElse (.int n)).toInt := by
  unfold orElse
  split
  · next given => exact fails_toInt_given given
  · exact .ok n

/-! ### Lists and objects -/

/-- Whether a value is of a kind that lists items. -/
def isListing : Value → Bool
  | .list _ | .tuple _ | .text _ | .bytes _ | .object _ => true
  | _ => false

/-- Why a value that was given is no list. -/
inductive Unlisted (v : Value) : Fault → Prop
  | unsuited (given : v.isGiven = true) (h : v.isListing = false) : Unlisted v .wrongKind

theorem fails_items (v : Value) :
    Fails (fun f => f = .fault .wrongKind ∧ v.isListing = false) v.items := by
  cases v <;> first | exact .ok _ | exact .fault ⟨rfl, rfl⟩

theorem fails_orElse_items (v : Value) :
    Fails (Failure.Explained v.Unlisted) (v.orElse (.list [])).items := by
  unfold orElse
  split
  · next given => exact (v.fails_items).mono fun f ⟨e, h⟩ => .inr ⟨_, e, .unsuited given h⟩
  · exact .ok []

/-- Whether a value is an object. -/
def isObject : Value → Bool
  | .object _ => true
  | _ => false

/-- Why a value that was given has no members. -/
inductive Memberless (v : Value) : Fault → Prop
  | unsuited (given : v.isGiven = true) (h : v.isObject = false) : Memberless v .noMember

/-- A value that is read as an object, or else as an empty one, has members. -/
theorem member_orElse (v : Value) (key : String) :
    (∃ fields, v.orElse (.object []) = .object fields ∧
        (v.orElse (.object [])).member key = .ok (field fields key)) ∨
      v.Memberless .noMember ∧ (v.orElse (.object [])).member key = fault .noMember := by
  unfold orElse
  split
  · next given =>
    cases v with
    | object fields => exact .inl ⟨fields, rfl, rfl⟩
    | _ => exact .inr ⟨.unsuited given rfl, rfl⟩
  · exact .inl ⟨[], rfl, rfl⟩

/-- One of the named fields of an object has something wrong with it. -/
def HasWrong (v : Value) (names : List String) (P : Value → Fault → Prop) (x : Fault) : Prop :=
  ∃ fields, v = .object fields ∧ ∃ name ∈ names, P (field fields name) x

theorem fails_countField {fields : List (Value × Value)} {names : List String} {name : String}
    (known : name ∈ names) :
    Fails (Failure.Explained ((Value.object fields).HasWrong names Uncountable))
      (countField fields name) :=
  (fails_orElse_toInt _ 0).mono fun _ hf => hf.imp fun _ h => ⟨fields, rfl, name, known, h⟩

theorem fails_entries (what : String) (v : Value) :
    Fails (fun f => f.tellsOfData = true ∧ v.isObject = false) (v.entries what) := by
  cases v <;> first | exact .ok _ | exact .error ⟨rfl, rfl⟩

/-- What is read of an object fails as it does for its fields; anything else is told. -/
theorem fails_entries_bind {P : Fault → Prop} {what : String} {v : Value}
    {f : List (Value × Value) → Attempt α}
    (h : ∀ fields, v = .object fields → Fails (Failure.Explained P) (f fields)) :
    Fails (Failure.Explained P) (v.entries what >>= f) := by
  cases v with
  | object fields => exact .okBind (h fields rfl)
  | _ => exact .error (.inl rfl)

end Value

open Failure (Explained)

/-! ### Records -/

theorem ColumnType.fails_ofValue (v : Value) : Fails (·.tellsOfData = true) (ofValue v) :=
  .bind ((v.fails_entries _).mono fun _ h => h.1) fun _ => .ok _

theorem Column.fails_ofValue (v : Value) : Fails (·.tellsOfData = true) (ofValue v) :=
  .bind ((v.fails_entries _).mono fun _ h => h.1) fun _ =>
    .bind (ColumnType.fails_ofValue _) fun _ => .ok _

theorem Column.fails_listOfValue (v : Value) : Fails (Explained v.Unlisted) (listOfValue v) :=
  .bind v.fails_orElse_items fun _ => .mapM fun c _ => (Column.fails_ofValue c).mono fun _ => .inl

/-- Why data are no page. -/
inductive ResultPage.Misfit (v : Value) : Fault → Prop
  | count {x} (h : v.HasWrong ["resultSetHandle", "numColumns", "numRows", "numRowsInMessage"]
      Value.Uncountable x) : Misfit v x
  | listing {x} (h : v.HasWrong ["columns", "data"] Value.Unlisted x) : Misfit v x
  /-- the values of a column are no list -/
  | column {fields columns column} (object : v = .object fields)
      (listed : ((Value.field fields "data").orElse (.list [])).items = .ok columns)
      (mem : column ∈ columns) (h : column.isListing = false) : Misfit v .wrongKind

theorem ResultPage.fails_ofValue (v : Value) : Fails (Explained (Misfit v)) (ofValue v) := by
  refine Value.fails_entries_bind ?_
  rintro fields rfl
  have count {name : String}
      (known : name ∈ ["resultSetHandle", "numColumns", "numRows", "numRowsInMessage"]) :
      Fails (Explained (Misfit (.object fields))) (Value.countField fields name) :=
    (Value.fails_countField known).mono fun _ hf => hf.imp fun _ => .count
  have listing {name : String} (known : name ∈ ["columns", "data"]) {f : Failure}
      (hf : f.Explained (Value.field fields name).Unlisted) : f.Explained (Misfit (.object fields)) :=
    hf.imp fun _ h => .listing ⟨fields, rfl, name, known, h⟩
  refine .bind (count (by decide)) fun handle => .bind (count (by decide)) fun numColumns => ?_
  refine .bind (count (by decide)) fun numRows => .bind (count (by decide)) fun numRowsInMessage => ?_
  refine .bind ((Column.fails_listOfValue _).mono fun _ hf => listing (by decide) hf) fun columns => ?_
  -- the lists of values are looked at only when it is known which ones there are
  cases listed : ((Value.field fields "data").orElse (.list [])).items with
  | error f => exact .error (listing (by decide) (Value.fails_orElse_items _ f listed))
  | ok data =>
    refine .okBind (.bind (.mapM fun column mem => ?_) fun _ => .ok _)
    exact column.fails_items.mono fun _ ⟨e, h⟩ => .inr ⟨_, e, .column rfl listed mem h⟩

/-- Why data are no results. -/
inductive QueryReply.Misfit (v : Value) (x : Fault) : Prop
  | count (h : v.HasWrong ["numResults"] Value.Uncountable x)
  | listing (h : v.HasWrong ["results"] Value.Unlisted x)

theorem QueryReply.fails_ofValue (v : Value) : Fails (Explained (Misfit v)) (ofValue v) := by
  refine Value.fails_entries_bind ?_
  rintro fields rfl
  have count : Fails (Explained (Misfit (.object fields))) (Value.countField fields "numResults") :=
    (Value.fails_countField (.head _)).mono fun _ hf => hf.imp fun _ => .count
  refine .bind count fun numResults => .bind ((Value.fails_orElse_items _).mono fun _ hf => ?_) fun _ => .ok _
  exact hf.imp fun _ h => .listing ⟨fields, rfl, _, .head _, h⟩

/-- Why data are no prepared statement. -/
inductive PreparedReply.Misfit (v : Value) (x : Fault) : Prop
  /-- the parameters are no object -/
  | parameters (h : v.HasWrong ["parameterData"] Value.Memberless x)
  | columns {fields parameters} (object : v = .object fields)
      (found : (Value.field fields "parameterData").orElse (.object []) = .object parameters)
      (h : (Value.field parameters "columns").Unlisted x)
  | handle (h : v.HasWrong ["statementHandle"] Value.Uncountable x)
  | count {fields parameters} (object : v = .object fields)
      (found : (Value.field fields "parameterData").orElse (.object []) = .object parameters)
      (h : (Value.field parameters "numColumns").Uncountable x)

theorem PreparedReply.fails_ofValue (v : Value) : Fails (Explained (Misfit v)) (ofValue v) := by
  refine Value.fails_entries_bind ?_
  rintro fields rfl
  have handle : Fails (Explained (Misfit (.object fields))) (Value.countField fields "statementHandle") :=
    (Value.fails_countField (.head _)).mono fun _ hf => hf.imp fun _ => .handle
  obtain ⟨parameters, found, member⟩ | ⟨memberless, member⟩ :=
    (Value.field fields "parameterData").member_orElse "columns"
  · show Fails _ ((Value.member _ "columns") >>= _)
    rw [member]
    refine .okBind (.bind ((Column.fails_listOfValue _).mono fun _ hf => ?_) fun columns => ?_)
    · exact hf.imp fun _ h => .columns rfl found h
    refine .bind handle fun _ => ?_
    show Fails _ ((Value.member _ "numColumns") >>= _)
    rw [found]
    refine .okBind (.bind ((Value.fails_orElse_toInt _ _).mono fun _ hf => ?_) fun _ => .ok _)
    exact hf.imp fun _ h => .count rfl found h
  · show Fails _ ((Value.member _ "columns") >>= _)
    rw [member]
    exact .error (.inr ⟨_, rfl, .parameters ⟨fields, rfl, _, .head _, memberless⟩⟩)

/-- Why data tell of no login. -/
def LoginReply.Misfit (v : Value) (x : Fault) : Prop := v.HasWrong counts Value.Uncountable x

theorem LoginReply.fails_ofValue_misfit (v : Value) : Fails (Explained (Misfit v)) (ofValue v) := by
  refine Value.fails_entries_bind ?_
  rintro fields rfl
  refine .bind (Value.fails_countField (by decide)) fun _ => ?_
  refine .bind (Value.fails_countField (by decide)) fun _ => ?_
  exact .bind (Value.fails_countField (by decide)) fun _ => .ok _

/-- Why data are no record of a kind. -/
def RecordKind.Misfit (v : Value) : RecordKind → Fault → Prop
  | .columnType | .column | .key => fun _ => False
  | .page => ResultPage.Misfit v
  | .results => QueryReply.Misfit v
  | .statement => PreparedReply.Misfit v
  | .login => LoginReply.Misfit v

/-- Data that are no record of a kind are told as such, or have a field that does not fit. -/
theorem RecordKind.fails_read (kind : RecordKind) (v : Value) :
    Fails (Explained (kind.Misfit v)) (kind.read v) := by
  cases kind with
  | columnType => exact .map _ ((ColumnType.fails_ofValue v).mono fun _ => .inl)
  | column => exact .map _ ((Column.fails_ofValue v).mono fun _ => .inl)
  | page => exact .map _ (ResultPage.fails_ofValue v)
  | results => exact .map _ (QueryReply.fails_ofValue v)
  | statement => exact .map _ (PreparedReply.fails_ofValue v)
  | key => exact .map _ (Value.fails_entries_bind fun _ _ => .ok _)
  | login => exact .map _ (LoginReply.fails_ofValue_misfit v)

/-! ### First results -/

namespace QueryReply

theorem fails_first (r : QueryReply) : Fails (·.tellsOfData = true) r.first := by
  unfold first
  refine .ite (.error rfl) ?_
  split
  · exact .error rfl
  · exact (Value.fails_entries _ _).mono fun _ h => h.1

theorem fails_withFirst (r : QueryReply) : Fails (·.tellsOfData = true) r.withFirst :=
  .bind r.fails_first fun _ => .ok _

/-- Why the first result has no row count. -/
inductive CountMisfit (r : QueryReply) (x : Fault) : Prop
  | count {entries} (first : r.first = .ok entries) (plain : isResultSet entries = false)
      (h : (Value.field entries "rowCount").Uncountable x)
  /-- the result set is no object -/
  | set {entries} (first : r.first = .ok entries) (hasSet : isResultSet entries = true)
      (h : (Value.field entries "resultSet").Memberless x)
  | rows {entries set} (first : r.first = .ok entries) (hasSet : isResultSet entries = true)
      (found : (Value.field entries "resultSet").orElse (.object []) = .object set)
      (h : (Value.field set "numRows").Uncountable x)

theorem fails_firstRowCount (r : QueryReply) : Fails (Explained r.CountMisfit) r.firstRowCount := by
  unfold firstRowCount
  cases first : r.first with
  | error f => exact .error (.inl (r.fails_first f first))
  | ok entries =>
    refine .okBind ?_
    split
    · next hasSet =>
      obtain ⟨set, found, member⟩ | ⟨memberless, member⟩ :=
        (Value.field entries "resultSet").member_orElse "numRows"
      · rw [member]
        refine .okBind ((Value.fails_orElse_toInt _ 0).mono fun _ hf => ?_)
        exact hf.imp fun _ h => .rows first hasSet found h
      · rw [member]
        exact .error (.inr ⟨_, rfl, .set first hasSet memberless⟩)
    · next plain =>
      have isPlain : isResultSet entries = false := by simpa using plain
      exact (Value.fails_orElse_toInt _ 0).mono fun _ hf => hf.imp fun _ h => .count first isPlain h

/-- Why the first result has no page: it is a result set that is none. -/
def SetMisfit (r : QueryReply) (x : Fault) : Prop :=
  ∃ entries, r.first = .ok entries ∧ isResultSet entries = true ∧
    ResultPage.Misfit ((Value.field entries "resultSet").orElse (.object [])) x

theorem fails_firstResultSet (r : QueryReply) : Fails (Explained r.SetMisfit) r.firstResultSet := by
  unfold firstResultSet
  cases first : r.first with
  | error f => exact .error (.inl (r.fails_first f first))
  | ok entries =>
    refine .okBind ?_
    split
    · next hasSet =>
      refine (ResultPage.fails_ofValue _).mono fun _ hf => hf.imp fun _ h => ?_
      exact ⟨entries, first, hasSet, h⟩
    · exact .ok _

end QueryReply

/-! ### Cells -/

namespace Cursor

/-- A cell of the row at hand cannot be delivered: its column takes integers only, and the cell is
a number that is none. -/
def CellMisfit (c : Cursor) (x : Fault) : Prop :=
  ∃ (i : Nat) (column : Column) (b : Binary), c.columns[i]? = some column ∧
    c.page[i]?.bind (·[c.pagePointer]?) = some (.float b) ∧
    column.dataType.name = "DECIMAL" ∧ column.dataType.scale.isZero = true ∧
    (Value.float b).Uncountable x

theorem fails_value (c : Cursor) {i : Nat} (known : i < c.columns.length) :
    Fails (Explained c.CellMisfit) (c.value i) := by
  unfold value
  split
  · exact .error (.inl rfl)
  · next v cell =>
    have column : c.columns[i]? = some c.columns[i] := List.getElem?_eq_getElem known
    rw [column]
    show Fails _ (Parameter.ofResult v c.columns[i].dataType)
    unfold Parameter.ofResult
    split
    · next b =>
      split
      · next whole =>
        have ⟨decimal, scaleless⟩ := Bool.and_eq_true_iff.1 whole
        refine .map _ ?_
        cases given : (Value.float b).isGiven with
        | false =>
          -- a cell that does not count as given is zero
          cases b with
          | finite negative m e => exact .ok _
          | _ => cases given
        | true =>
          refine (Value.fails_toInt_given given).mono fun _ hf => hf.imp fun _ h => ?_
          exact ⟨i, c.columns[i], b, column, cell, by simpa using decimal, scaleless, h⟩
      · exact .ok _
    · exact .ok _

theorem fails_fill (c : Cursor) (row : List Value) (i : Nat) (known : i + row.length ≤ c.columns.length) :
    Fails (Explained c.CellMisfit) (c.fill i row).2 := by
  induction row generalizing i with
  | nil => exact .ok ()
  | cons old rest ih =>
    rw [List.length_cons] at known
    unfold fill
    cases value : c.value i with
    | error f => exact .error (c.fails_value (by omega) f value)
    | ok v => exact ih (i + 1) (by omega)

end Cursor

end ExaWire
