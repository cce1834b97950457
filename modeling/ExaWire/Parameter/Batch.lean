/-
ExaWire/Parameter/Batch.lean

Parameters of several rows.  The caller gives whole rows back to back; the wire
wants columns, so with `N` columns the value of row `r` and column `i` is the one
at position `r · N + i`.
-/
import ExaWire.Parameter.Literal

namespace ExaWire.Parameter

/-- Parameter values column by column. -/
structure Batch where
  columns : List Column
  data : List (List Value)
  numRows : Nat

/-- Every `step`-th item from the first on; `skip` items are passed over before. -/
def everyFrom {α : Type} (step : Nat) : Nat → List α → List α
  | _, [] => []
  | 0, x :: xs => x :: everyFrom step (step - 1) xs
  | skip + 1, _ :: xs => everyFrom step skip xs

/-- The values of a batch as a request carries them: a list for each column. -/
def Batch.wireData (b : Batch) : Value := .list (b.data.map .list)

/-- The values of the columns from index `i` on, converted column by column. -/
def convertColumns (width : Nat) (values : List Value) : Nat → List Column → Attempt (List (List Value))
  | _, [] => .ok []
  | i, c :: cs => do
    let column ← (everyFrom width i values).mapM (convert · c.dataType)
    let rest ← convertColumns width values (i + 1) cs
    .ok (column :: rest)

/-- The refusal of a number of values. -/
def wrongCount {α : Type} (text : String) : Attempt α := .error (.of .valuesCount text)

/-- The batch of a value that lists parameters.  Named parameters are refused; a
statement without parameters takes nothing; otherwise the values have to fill whole
rows, and each has to be one that its column takes. -/
def Batch.build (columns : List Column) (values : Value) : Attempt Batch :=
  match values with
  | .object _ => refuse values "named parameters"
  | _ =>
    let width := columns.length
    if width = 0 then
      if values.isGiven then wrongCount "invalid value count for prepared statement"
      else .ok ⟨[], [], 0⟩
    else do
      let items ← values.items
      if items.length % width ≠ 0 then
        wrongCount ("invalid value count for prepared statement: " ++ toString items.length ++
          " values for " ++ toString width ++ " columns")
      else do
        let data ← convertColumns width items 0 columns
        .ok ⟨columns, data, items.length / width⟩

end ExaWire.Parameter
