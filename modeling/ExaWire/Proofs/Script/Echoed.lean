/-
ExaWire/Proofs/Script/Echoed.lean

The parameters of a statement are described to the server as it described them.

A statement that a dialogue prepares has the columns of one reply, and keeps them for as long
as it is held, whatever else is done in between.  So whenever it is executed, the descriptors of
that reply are sent in their order, less what is unknown or null.  The same goes for a
statement that is prepared for one execution.
-/
import ExaWire.Proofs.Script.Reused
import ExaWire.Proofs.Statement.Echoed

namespace ExaWire.Script

open Network Session Stage
open Client (Writes)

variable {ω : Type} {env : Environment ω} {x : String} {d : Dialogue ω} {m : Move ω} {p : Prepared}
  {handle : Int} {ds : List Descriptor}

/-! ### One move -/

variable (env) in
/-- A statement keeps its columns in any move that makes no other object in its place, and a move on
it describes them to the server. -/
theorem Dialogue.Holds.echoes (holds : d.Holds x (.statement p)) (h : p.Of handle ds)
    (makes : m.call.makes m.name ≠ some x) :
    ∃ p', (d.make env m).2.Holds x (.statement p') ∧ p'.Of handle ds ∧
      (m.IsOn x d → d.client.Writes (Frame.Echoes env.codec handle ds) (d.make env m).2.client) := by
  by_cases own : m.IsOn x d
  case neg => exact ⟨p, holds.spared makes own, h, fun on => absurd on own⟩
  case pos =>
    obtain ⟨rfl, suits⟩ := holds.isOn.1 own
    have moved : Ends (m.call.perform env m.name m.scope) { d with client := m.meet d.client }
        fun _ d' => ∃ p', d'.Holds m.name (.statement p') ∧ p'.Of handle ds ∧
          (m.meet d.client).Writes (Frame.Echoes env.codec handle ds) d'.client := by
      refine Call.ends_statement (R := fun t => t.1.Of handle ds ∧
        (m.meet d.client).Writes (Frame.Echoes env.codec handle ds) t.2) (holds.met m) suits makes
        ?_ ?_ ?_ ?_
      · intro _ values
        exact (h.ends_execute values m.scope _).mono fun _ t ⟨same, writes⟩ => ⟨same ▸ h, writes⟩
      · intro _ values
        exact (h.ends_query values m.scope _).mono fun _ t ⟨same, writes⟩ => ⟨same ▸ h, writes⟩
      · exact fun _ => h.ends_close _
      · exact fun _ _ => ⟨h, refl_of (Writes _) _⟩
    obtain ⟨p', holds', of, writes⟩ := moved
    exact ⟨p', holds', of, fun _ => writes⟩

/-! ### The life of a statement -/

/-- Every frame on behalf of a statement echoes the descriptors of its columns, if it has any. -/
theorem Dialogue.Holds.framesOn_echo (holds : d.Holds x (.statement p)) (h : p.Of handle ds)
    {moves : List (Move ω)} (lives : ∀ m ∈ moves, m.call.makes m.name ≠ some x) :
    ∀ frame ∈ d.framesOn env x moves, frame.Echoes env.codec handle ds := by
  -- the statement that is held after a move may be another, but it has the same columns
  induction moves generalizing d p with
  | nil => exact List.forall_mem_nil _
  | cons m moves ih =>
    obtain ⟨makes, others⟩ := List.forall_mem_cons.1 lives
    obtain ⟨p', holds', of, writes⟩ := holds.echoes env h makes
    have later := ih holds' of others
    by_cases own : m.IsOn x d
    · obtain ⟨news, frames, all⟩ := writes own
      rw [framesOn_of_isOn own frames]
      exact List.forall_mem_append.2 ⟨all, later⟩
    · rw [framesOn_of_not_isOn own]
      exact later

/-- The preparation of a statement is refused if the session is closed. -/
theorem prepare_apply (sql : String) (scope : Option ScopeId) (c : Client ω) :
    Connection.prepare env sql scope c =
      if c.session.isClosed then (.error Session.closedFailure, c)
      else Statement.prepare env sql scope c := by
  unfold Connection.prepare
  rw [bind_apply, Connection.ensureOpen_apply]
  cases c.session.isClosed with
  | true => rfl
  | false => rfl

/-- A move that prepares a statement holds it from then on. -/
theorem Dialogue.prepared (hs : d.hasSession = true) (name : m.name = x) {sql : String}
    (call : m.call = .prepare sql) {g : Given} (made : (d.make env m).1 = .ok g) :
    ∃ p, Statement.prepare env sql m.scope (m.meet d.client) = (.ok p, (d.make env m).2.client) ∧
      (d.make env m).2.Holds x (.statement p) := by
  let d₁ : Dialogue ω :=
    { d with client := m.meet d.client, objects := d.objects.filter (·.1 ≠ x) }
  have turn : d.make env m =
      (do
        let statement ← act (Connection.prepare env sql m.scope)
        keep x (.statement statement)
        return .ofPrepared statement : Stage ω Given) d₁ := by
    unfold Dialogue.make
    rw [call, name]
    rfl
  rw [bind_apply, act_apply (d := d₁) hs, prepare_apply] at turn
  rcases prepared : Statement.prepare env sql m.scope (m.meet d.client) with ⟨r, c⟩
  rw [prepared] at turn
  by_cases closed : (m.meet d.client).session.isClosed = true
  · rw [if_pos closed] at turn
    rw [turn] at made
    cases made
  · rw [if_neg closed] at turn
    cases r with
    | error f =>
      rw [turn] at made
      cases made
    | ok p =>
      rw [turn]
      exact ⟨p, rfl, hs, List.lookup_cons_self⟩

/-! ### Columns and descriptors -/

/-- How columns come back to the server that described them. -/
structure Echoing (env : Environment ω) : Prop where
  /-- what is written of a column is read as the same column -/
  column : ∀ c : Column, Column.ofValue c.toValue = .ok c
  /-- what is read of a descriptor is its echo -/
  descriptor : ∀ d : Descriptor, ∃ c, Column.ofValue d.value = .ok c ∧ c.toValue = d.echo
  /-- of the attributes of a type an echo has those that are known and not null -/
  kept : ∀ (entries : List (Value × Value)) key v,
    (key, v) ∈ ColumnType.kept ColumnType.keys entries ↔
      key ∈ ColumnType.keys ∧ Value.lookup? key entries = some v ∧ ColumnType.isNull v = false
  /-- the echo of a descriptor that has no others is that descriptor again, but for the order -/
  whole : ∀ (d : Descriptor) fields, d.HasOnly fields → ∃ sent,
    d.echo = .ofFields [("name", .text d.name), ("dataType", .ofFields sent)] ∧ sent.Perm fields
  /-- whatever is done with a statement that a dialogue prepared, its executions send the echoes of
  the descriptors that the reply listed -/
  held : ∀ (d : Dialogue ω) (m : Move ω) sql given, d.hasSession = true → m.call = .prepare sql →
    (d.make env m).1 = .ok given →
    ∃ reply p, (m.meet d.client).HasRead env.codec (d.make env m).2.client reply ∧
      (d.make env m).2.Holds m.name (.statement p) ∧
      ∀ ds, ds ≠ [] → ListsParameters reply ds → ∀ moves : List (Move ω),
        (∀ n ∈ moves, n.call.makes n.name ≠ some m.name) →
        ∀ frame ∈ (d.make env m).2.framesOn env m.name moves, frame.Echoes env.codec p.handle ds
  /-- and so does the one execution that a statement was prepared for -/
  once : ∀ sql values scope (c : Client ω) p c', Statement.prepare env sql scope c = (.ok p, c') →
    ∃ reply, c.HasRead env.codec c' reply ∧ ∀ ds, ds ≠ [] → ListsParameters reply ds →
      c'.Writes (Frame.Echoes env.codec p.handle ds) (Statement.once env sql values scope c).2

/-- Descriptors of columns are echoed faithfully. -/
theorem descriptors_are_echoed (env : Environment ω) : Echoing env where
  column := Column.ofValue_toValue
  descriptor := Descriptor.exists_column
  kept _ _ _ := ColumnType.mem_kept
  whole _ _ only := only.echo
  held d m sql given hs call made := by
    obtain ⟨p, prepared, holds⟩ := Dialogue.prepared hs rfl call made
    obtain ⟨reply, read, of⟩ := (Statement.prepares_of_prepare prepared).of
    refine ⟨reply, p, read, holds, fun ds some lists moves lives => ?_⟩
    exact holds.framesOn_echo (of ds some lists) lives
  once sql values scope c p c' prepared := by
    obtain ⟨reply, read, of⟩ := (Statement.prepares_of_prepare prepared).of
    exact ⟨reply, read, fun ds some lists => Statement.writes_once prepared (of ds some lists) values⟩

/-- A reply that describes one parameter, in parts: with zero and `false` among its attributes, with a
null and with an unknown one. -/
def describing : Bytes :=
  cannedReply ["\x7b\"statementHandle\": 7, \"parameterData\": ", "\x7b\"columns\": [\x7b\"name\": \"A\", ",
    "\"dataType\": \x7b\"scale\": 0, \"size\": null, ", "\"withLocalTimeZone\": false, ",
    "\"type\": \"DECIMAL\", \"nullable\": true\x7d\x7d]\x7d\x7d"]

/-- The execution of that statement with one row, in parts. -/
def describedExecution : List String :=
  ["\x7b\"command\": \"executePreparedStatement\", ", "\"statementHandle\": 7, \"numRows\": 1, ",
    "\"data\": [[5]], \"attributes\": \x7b\x7d, ", "\"numColumns\": 1, \"columns\": [\x7b\"name\": \"A\", ",
    "\"dataType\": \x7b\"type\": \"DECIMAL\", ", "\"scale\": 0, \"withLocalTimeZone\": false\x7d\x7d]\x7d"]

/-- The zero and the `false` are sent again when the statement is executed. -/
theorem echoed_zeros :
    let d : Dialogue (List Bytes) := {
      client := { session := { phase := .open, attached := true }, wire := [describing] } }
    let prepares : Move (List Bytes) := { call := .prepare "INSERT", name := "p" }
    let executes : Move (List Bytes) := { call := .executePrepared (.list [.int 5]), name := "p" }
    (d.make cannedEnvironment prepares).2.framesOn cannedEnvironment "p" [executes] =
        [⟨describedExecution.flatMap Utf8.encode, false⟩] ∧
      Echoing cannedEnvironment :=
  ⟨by decide +kernel, descriptors_are_echoed cannedEnvironment⟩

end ExaWire.Script
