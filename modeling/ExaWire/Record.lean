/-
ExaWire/Record.lean

All records that a reply may carry, for a caller who says which one it expects.
-/
import ExaWire.Reply

namespace ExaWire

/-- The kinds of record. -/
inductive RecordKind
  | columnType | column | page | results | statement | key | login
deriving DecidableEq, Repr

/-- A record of any kind. -/
inductive Record
  | columnType (t : ColumnType)
  | column (c : Column)
  | page (p : ResultPage)
  | results (r : QueryReply)
  | statement (p : PreparedReply)
  | key (k : KeyReply)
  | login (l : LoginReply)

/-- The record of a kind that a value describes. -/
def RecordKind.read (v : Value) : RecordKind → Attempt Record
  | .columnType => Record.columnType <$> ColumnType.ofValue v
  | .column => Record.column <$> Column.ofValue v
  | .page => Record.page <$> ResultPage.ofValue v
  | .results => Record.results <$> QueryReply.ofValue v
  | .statement => Record.statement <$> PreparedReply.ofValue v
  | .key => Record.key <$> KeyReply.ofValue v
  | .login => Record.login <$> LoginReply.ofValue v

end ExaWire
