/-
ExaWire/Proofs/Statement/Echoed.lean

What is written on behalf of a prepared statement.

The columns of a statement are those of the reply that prepared it, and its batches have them
too.  So each of its executions describes the columns of that reply again, and besides these
only the release of its handle and the abort of an execution are written (`Descriptor.Asks`).
The statement keeps its handle and its columns through all of this, also if it is closed.
-/
import ExaWire.Proofs.Column
import ExaWire.Proofs.Released

namespace ExaWire

open Network Session
open Client (Writes)

variable {ω α : Type} {env : Environment ω} {c c' : Client ω} {ds : List Descriptor}

/-- An attempt in two steps succeeds only if both of them do. -/
theorem exists_of_bind {α β : Type} {x : Attempt α} {f : α → Attempt β} {b : β}
    (h : (x >>= f) = .ok b) : ∃ a, x = .ok a ∧ f a = .ok b := by
  cases x with
  | error e => cases h
  | ok a => exact ⟨a, rfl, h⟩

/-! ### Requests -/

/-- The requests that are made on behalf of a statement with some columns. -/
inductive Descriptor.Asks (handle : Int) (ds : List Descriptor) : Value → Prop
  | execution (numRows data attributes : Value) :
      Asks handle ds (Command.named "executePreparedStatement"
        [("statementHandle", .int handle), ("numRows", numRows), ("data", data),
          ("attributes", attributes), ("numColumns", .int ds.length),
          ("columns", .list (ds.map Descriptor.echo))])
  | release : Asks handle ds (Command.closePrepared (.int handle))
  | abort : Asks handle ds Command.abortQuery

open Descriptor (Asks)

/-- A frame on behalf of a statement with some columns. -/
def Network.Frame.Echoes (codec : Codec) (handle : Int) (ds : List Descriptor) (frame : Frame) : Prop :=
  frame.Carries codec (Asks handle ds)

/-- A request writes its own frame at most, and an abort. -/
theorem Session.ends_send_writes (fields : List (Value × Value)) (read : Value → Attempt α)
    (scope : Option ScopeId) (c : Client ω) :
    Ends (send env (.object fields) read scope) c fun _ c' =>
      c.Writes (Frame.Carries env.codec fun r => r = .object fields ∨ r = Command.abortQuery) c' := by
  let P : Conduct := ⟨(· = .object fields), False⟩
  have writes : P.Writes env
      (Frame.Carries env.codec fun r => r = .object fields ∨ r = Command.abortQuery) := by
    rintro request (own | abort) compressing payload encoded
    · exact ⟨request, .inl own, encoded⟩
    · exact ⟨request, .inr abort, encoded⟩
  refine (ends_send_told fields read scope c).mono ?_
  rintro r c' (- | ⟨-, -, -, hp, hn, goes⟩ | ⟨-, a, -⟩)
  · exact refl_of (Writes _) c
  · exact ⟨_, goes.frames, Happening.forall_frames (Client.ordinary_cutShort (P := P) rfl writes hp hn)⟩
  · refine ⟨_, a.goes.frames, ?_⟩
    rintro frame (_ | ⟨_, ⟨⟩⟩)
    exact ⟨_, .inl rfl, a.encoded⟩

/-- A batch has the columns that it was built for. -/
theorem Parameter.Batch.columns_of_build {columns : List Column} {values : Value} {b : Batch}
    (h : build columns values = .ok b) : b.columns = columns := by
  unfold build at h
  split at h
  · cases h
  dsimp only at h
  split at h
  · next none =>
    -- a batch without values is built for no columns only
    split at h
    · cases h
    · cases h
      exact (List.eq_nil_of_length_eq_zero none).symm
  · obtain ⟨items, -, h⟩ := exists_of_bind h
    split at h
    · cases h
    · obtain ⟨data, -, h⟩ := exists_of_bind h
      cases h
      rfl

/-! ### Statements -/

/-- A statement whose columns were described. -/
structure Prepared.Of (handle : Int) (ds : List Descriptor) (p : Prepared) : Prop where
  handle : p.handle = handle
  columns : p.columns.map Column.toValue = ds.map Descriptor.echo
  some : ds ≠ []

namespace Prepared

variable {p : Prepared} {handle : Int}

/-- The request for an execution describes the columns again. -/
theorem Of.asks (h : p.Of handle ds) (numRows data maxRows : Value) :
    Asks handle ds (Command.executePrepared (.int p.handle) p.columns numRows data maxRows) := by
  have length : p.columns.length = ds.length := by
    have same := congrArg List.length h.columns
    rwa [List.length_map, List.length_map] at same
  have some : ¬ p.columns.isEmpty = true := by
    rw [List.isEmpty_iff, ← List.length_eq_zero_iff, length, List.length_eq_zero_iff]
    exact h.some
  unfold Command.executePrepared
  rw [if_neg some, h.handle, h.columns, length]
  exact .execution ..

/-- An execution writes a request for itself, and maybe an abort. -/
theorem Of.ends_execute (h : p.Of handle ds) (values : Value) (scope : Option ScopeId) (c : Client ω) :
    Ends (execute env values scope) (p, c) fun _ t =>
      t.1 = p ∧ c.Writes (Frame.Echoes env.codec handle ds) t.2 := by
  have silent : p = p ∧ c.Writes (Frame.Echoes env.codec handle ds) c := ⟨rfl, refl_of (Writes _) c⟩
  refine .object (.heldOfAttempt (fun batch built => .actSession ?_) fun f _ => silent)
  refine .heldOfAttempt (fun _ _ => ?_) fun f _ => silent
  let request := Command.executePrepared (.int p.handle) batch.columns (.int batch.numRows)
    batch.wireData (.int c.session.config.resultSetMaxRows)
  have asks : ∀ r, r = request ∨ r = Command.abortQuery → Asks handle ds r := by
    rintro _ (rfl | rfl)
    · have described : batch.columns = p.columns := Parameter.Batch.columns_of_build built
      simp only [request, described]
      exact h.asks ..
    · exact .abort
  have sends : Ends (Session.send env request QueryReply.ofValue scope) c fun _ c' =>
      c.Writes (Frame.Echoes env.codec handle ds) c' := by
    refine (ends_send_writes _ QueryReply.ofValue scope c).mono ?_
    rintro _ c' ⟨news, frames, all⟩
    refine ⟨news, frames, fun frame hf => ?_⟩
    obtain ⟨r, own, encoded⟩ := all frame hf
    exact ⟨r, asks r own, encoded⟩
  refine .act sends ?_ ?_
  · intro reply c' writes
    rcases reply.withFirst with f | r
    · exact ⟨rfl, writes⟩
    · exact ⟨rfl, writes⟩
  · exact fun f c' writes => ⟨rfl, writes⟩

theorem Of.ends_query (h : p.Of handle ds) (values : Value) (scope : Option ScopeId) (c : Client ω) :
    Ends (query env values scope) (p, c) fun _ t =>
      t.1 = p ∧ c.Writes (Frame.Echoes env.codec handle ds) t.2 := by
  refine (h.ends_execute values scope c).bind ?_ fun _ _ done => done
  intro reply t done
  refine .actSession (.object (.heldOfAttempt (fun _ _ => ?_) fun _ _ => done))
  exact .heldOfAttempt (fun _ _ => .pure done) fun _ _ => done

/-- The closing of a statement writes the release of its handle at most, and the statement stays what
it is but for that. -/
theorem Of.ends_close (h : p.Of handle ds) (c : Client ω) :
    Ends (close env) (p, c) fun _ t =>
      t.1.Of handle ds ∧ c.Writes (Frame.Echoes env.codec handle ds) t.2 := by
  have silent : p.Of handle ds ∧ c.Writes (Frame.Echoes env.codec handle ds) c :=
    ⟨h, refl_of (Writes _) c⟩
  refine .object (.ite (fun _ => .pure silent) fun _ => ?_)
  refine .actSession (.heldOfAttempt (fun _ _ => ?_) fun _ _ => silent)
  have sends : Ends (Session.send env (Command.closePrepared (.int p.handle)) noData) c fun _ c' =>
      c.Writes (Frame.Echoes env.codec handle ds) c' := by
    refine (ends_send_once _ noData c).mono ?_
    rintro _ c' (⟨-, rfl⟩ | tried)
    · exact refl_of (Writes _) _
    obtain frames | ⟨payload, encoded, frames⟩ := tried.frames
    · exact .of_frames frames
    · refine ⟨_, frames, ?_⟩
      rintro frame (_ | ⟨_, ⟨⟩⟩)
      exact ⟨_, h.handle ▸ .release, encoded⟩
  refine .act sends ?_ ?_
  · exact fun _ c' writes => ⟨⟨h.handle, h.columns, h.some⟩, writes⟩
  · exact fun f c' writes => ⟨h, writes⟩

end Prepared

/-! ### Replies -/

/-- A reply that lists descriptors of the parameters of a statement. -/
def ListsParameters (reply : List (Value × Value)) (ds : List Descriptor) : Prop :=
  ∃ fields parameters, Value.field reply "responseData" = .object fields ∧
    Value.field fields "parameterData" = .object parameters ∧
    Value.field parameters "columns" = .list (ds.map Descriptor.value)

/-- A statement has the columns that the reply listed. -/
theorem PreparedReply.columns_of_lists {entries : List (Value × Value)} {reply : PreparedReply}
    (read : answer PreparedReply.ofValue entries = .ok reply) (lists : ListsParameters entries ds) :
    reply.columns.map Column.toValue = ds.map Descriptor.echo := by
  obtain ⟨fields, parameters, responseData, parameterData, columns⟩ := lists
  obtain ⟨v, told, read⟩ := exists_data_of_answer read
  obtain rfl := (responseData_of_data told).symm.trans responseData
  obtain ⟨cs, columnsRead, written⟩ := Descriptor.exists_columns ds
  have listed : Column.listOfValue (.list (ds.map Descriptor.value)) = .ok cs := by
    rw [Column.listOfValue, Value.list_orElse]
    exact columnsRead
  have member : (Value.object parameters).member "columns" = .ok (.list (ds.map Descriptor.value)) :=
    congrArg Except.ok columns
  unfold PreparedReply.ofValue Value.entries at read
  obtain ⟨_, ⟨⟩, read⟩ := exists_of_bind read
  obtain ⟨v, found, read⟩ := exists_of_bind read
  rw [parameterData, Value.object_orElse] at found
  cases member.symm.trans found
  obtain ⟨cs', found, read⟩ := exists_of_bind read
  cases listed.symm.trans found
  obtain ⟨handle, -, read⟩ := exists_of_bind read
  obtain ⟨count, -, read⟩ := exists_of_bind read
  obtain ⟨number, -, read⟩ := exists_of_bind read
  cases read
  exact written

/-! ### Preparations -/

namespace Statement

variable {sql : String} {scope : Option ScopeId} {p : Prepared} {handle : Int}

/-- A reply was read, and a statement was made of it. -/
theorem Prepares.of (h : Prepares env sql c (.ok p) c') : ∃ reply, c.HasRead env.codec c' reply ∧
    ∀ ds, ds ≠ [] → ListsParameters reply ds → p.Of p.handle ds := by
  obtain _ | ⟨-, -, last, read⟩ := h
  exact ⟨_, last, fun ds some lists => ⟨rfl, PreparedReply.columns_of_lists read lists, some⟩⟩

theorem prepares_of_prepare (h : prepare env sql scope c = (.ok p, c')) :
    Prepares env sql c (.ok p) c' := by
  have prepares := ends_prepare env sql scope c
  unfold Ends at prepares
  rwa [h] at prepares

theorem ends_tidy_writes (h : p.Of handle ds) (c : Client ω) :
    Ends (tidy env p) c fun _ c' => c.Writes (Frame.Echoes env.codec handle ds) c' := by
  refine .session (.ite (fun _ => .on (h.ends_close c) ?_) fun _ => .pure (refl_of (Writes _) c))
  rintro (f | _) _ c₁ ⟨-, writes⟩
  · refine .ite (fun _ => ?_) fun _ => writes
    exact trans_of (Writes _) writes (.of_frames (c₁.steady_annotate _).frames)
  · exact .pure writes

/-- What is written for a statement that is prepared for one execution, once it is prepared. -/
theorem writes_once (prepared : prepare env sql scope c = (.ok p, c')) (h : p.Of handle ds)
    (values : Value) :
    c'.Writes (Frame.Echoes env.codec handle ds) (once env sql values scope c).2 := by
  unfold once
  rw [bind_apply, prepared]
  show Ends (Held.on p (Prepared.execute env values scope) >>= _) c' fun _ c₂ =>
    c'.Writes (Frame.Echoes env.codec handle ds) c₂
  refine .on (h.ends_execute values scope c') ?_
  rintro (f | reply) _ c₂ ⟨rfl, executes⟩
  · refine (ends_tidy_writes h c₂).bind (fun _ c₃ closes => .throw ?_) fun _ c₃ closes => ?_
    · exact trans_of (Writes _) executes closes
    · exact trans_of (Writes _) executes closes
  · refine .on (h.ends_close c₂) ?_
    rintro (f | _) _ c₃ ⟨-, closes⟩
    · exact trans_of (Writes _) executes closes
    · exact trans_of (Writes _) executes closes

end Statement

end ExaWire
