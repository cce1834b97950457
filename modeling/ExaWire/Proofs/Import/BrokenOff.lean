/-
ExaWire/Proofs/Import/BrokenOff.lean

An upload that breaks off is never taken for a complete one.

What files hand out does not depend on what becomes of it: lines, until reading fails or
all files are read (`Handed`).  An upload sends the head and these lines, and ends the
body only if reading did not fail (`run_eq`).  So all that can happen to it happens at one
of the lines: the scope is seen cancelled at the poll before it, or one of its writes
fails.  Either way the lines before it are there in full, of the line itself there is
at most a beginning, and the end of the body is missing.
-/
import ExaWire.Proofs.Import.Upload
import ExaWire.Proofs.Scope

namespace ExaWire.Import

open Network

/-! ### What files hand out -/

/-- The contents of a file, block by block, whether reading fails in between or not. -/
def blocksOf (file : LocalFile) : List Bytes :=
  file.filterMap fun | .bytes bs => some bs | .failure _ => none

/-- What is handed out by files that are read: lines, and why there are no more of them if
reading failed. -/
structure Handed where
  lines : List Bytes := []
  failure : Option String := none

namespace Handed

/-- What is handed out first, and what is handed out then unless reading has failed. -/
def andThen (first more : Handed) : Handed :=
  match first.failure with
  | some _ => first
  | none => { more with lines := first.lines ++ more.lines }

/-- What a file hands out, some of whose lines may have been read. -/
def ofFile (delimiter : Bytes) : Lines → LocalFile → Handed
  | lines, [] => { lines := lines.finish }
  | _, .failure text :: _ => { failure := some text }
  | lines, .bytes block :: rest =>
    ({ lines := (lines.read delimiter block).take.1 } : Handed).andThen
      (ofFile delimiter (lines.read delimiter block).take.2 rest)

/-- What files hand out, one after the other. -/
def ofFiles (delimiter : Bytes) : List LocalFile → Handed
  | [] => {}
  | file :: files => (ofFile delimiter {} file).andThen (ofFiles delimiter files)

/-- Some lines are handed out: they are the first of them, and all if reading does not fail. -/
structure From (h : Handed) (lines : List Bytes) : Prop where
  begins : h.lines <+: lines
  all : h.failure = none → h.lines = lines

theorem From.andThen {first more : Handed} {lines others : List Bytes} (h : first.From lines)
    (h' : more.From others) : (first.andThen more).From (lines ++ others) := by
  unfold Handed.andThen
  cases failed : first.failure with
  | some text =>
    refine ⟨h.begins.trans (List.prefix_append _ _), ?_⟩
    intro none
    cases failed.symm.trans none
  | none =>
    have same : first.lines = lines := h.all failed
    refine ⟨?_, ?_⟩
    · show first.lines ++ more.lines <+: lines ++ others
      rw [same]
      exact (List.prefix_append_right_inj lines).2 h'.begins
    · intro none
      show first.lines ++ more.lines = lines ++ others
      rw [same, h'.all none]

theorem from_ofFile (delimiter : Bytes) (lines : Lines) (file : LocalFile) :
    (ofFile delimiter lines file).From
      ((blocksOf file).foldl (Lines.read delimiter) lines).finish := by
  -- by induction on the file, for any reader: a block hands out the lines that it completes
  induction file generalizing lines with
  | nil => exact ⟨List.prefix_rfl, fun _ => rfl⟩
  | cons delivery rest ih =>
    cases delivery with
    | failure text =>
      refine ⟨List.nil_prefix, ?_⟩
      rintro ⟨⟩
    | bytes block =>
      have first : ({ lines := (lines.read delimiter block).take.1 } : Handed).From
          (lines.read delimiter block).take.1 := ⟨List.prefix_rfl, fun _ => rfl⟩
      show (Handed.andThen _ _).From
        ((blocksOf rest).foldl (Lines.read delimiter) (lines.read delimiter block)).finish
      rw [Lines.finish_take]
      exact first.andThen (ih _)

/-- Files hand out the lines of their contents, as far as they can be read. -/
theorem from_ofFiles (delimiter : Bytes) (files : List LocalFile) :
    (ofFiles delimiter files).From ((files.map blocksOf).flatMap (Lines.ofBlocks delimiter)) := by
  induction files with
  | nil => exact ⟨List.prefix_rfl, fun _ => rfl⟩
  | cons file files ih =>
    rw [List.map_cons, List.flatMap_cons]
    exact (from_ofFile delimiter {} file).andThen ih

end Handed

namespace Upload

/-- The end of the reading: it breaks off if it has failed. -/
def stop : Option String → Step Unit
  | none => pure ()
  | some text => throw (.failed text)

/-- Sends what files hand out. -/
def send (scope : Option ScopeId) (h : Handed) : Step Unit := do
  h.lines.forM (line scope)
  stop h.failure

theorem throw_bind (e : Break) (a : Step Unit) : (do throw e; a) = (throw e : Step Unit) := by
  funext u
  rw [bind_apply]
  rfl

theorem send_andThen (scope : Option ScopeId) (first more : Handed) :
    send scope (first.andThen more) = (do send scope first; send scope more) := by
  obtain ⟨lines, failure⟩ := first
  cases failure with
  | some text =>
    show (do lines.forM (line scope); (throw (Break.failed text) : Step Unit)) =
      (do (do lines.forM (line scope); (throw (Break.failed text) : Step Unit)); send scope more)
    rw [bind_assoc, throw_bind]
  | none =>
    show (do forM (lines ++ more.lines) (line scope); stop more.failure) =
      (do ((do lines.forM (line scope); pure ()) : Step Unit); send scope more)
    rw [List.forM_append, bind_assoc, bind_pure_unit]
    rfl

theorem file_eq (scope : Option ScopeId) (delimiter : Bytes) (lines : Lines) (file : LocalFile) :
    Upload.file scope delimiter lines file = send scope (Handed.ofFile delimiter lines file) := by
  induction file generalizing lines with
  | nil =>
    show lines.finish.forM (line scope) = (do lines.finish.forM (line scope); pure ())
    rw [bind_pure_unit]
  | cons delivery rest ih =>
    cases delivery with
    | failure text => rfl
    | bytes block =>
      show (do (lines.read delimiter block).take.1.forM (line scope)
               Upload.file scope delimiter (lines.read delimiter block).take.2 rest) = _
      rw [Handed.ofFile, send_andThen, ih]
      show _ = (do ((do (lines.read delimiter block).take.1.forM (line scope); pure ()) : Step Unit); _)
      rw [bind_pure_unit]

/-- An upload sends the head and what its files hand out, and ends the body. -/
theorem run_eq (scope : Option ScopeId) (separator : Bytes) (files : List LocalFile) :
    run scope separator files = (do
      write head
      send scope (Handed.ofFiles (delimiterOf separator) files)
      finish) := by
  have sends : files.forM (Upload.file scope (delimiterOf separator) {}) =
      send scope (Handed.ofFiles (delimiterOf separator) files) := by
    induction files with
    | nil => rfl
    | cons file files ih =>
      show (do Upload.file scope (delimiterOf separator) {} file; files.forM _) = _
      rw [file_eq, ih, Handed.ofFiles, send_andThen]
  show (do write head; files.forM (Upload.file scope (delimiterOf separator) {}); finish) = _
  rw [sends]

/-! ### Polls -/

/-- What a poll of the scope of an upload tells. -/
def sees (scope : Option ScopeId) (u : Upload) : Option Cause :=
  scope.bind fun id => (u.scopes.poll id).1

/-- The upload after a poll. -/
def asked (scope : Option ScopeId) (u : Upload) : Upload :=
  match scope with
  | none => u
  | some id => { u with scopes := (u.scopes.poll id).2 }

variable {scope : Option ScopeId} {u v w : Upload} {bs : Bytes} {cause : Cause}

theorem check_apply (scope : Option ScopeId) (u : Upload) : check scope u =
    (match u.sees scope with | none => .ok () | some cause => .error (.cancelled cause),
      u.asked scope) := by
  cases scope with
  | none => rfl
  | some id =>
    unfold check sees asked
    dsimp only [Option.bind_some]
    rw [get_bind_apply]
    rcases u.scopes.poll id with ⟨_ | cause, scopes⟩
    · rfl
    · rfl

theorem wrote_asked (scope : Option ScopeId) (u : Upload) : Wrote u (u.asked scope) [] 0 := by
  cases scope with
  | none => exact .refl u
  | some id => exact ⟨(List.append_nil _).symm, rfl, rfl, rfl, rfl, rfl⟩

/-- The scope knows the cause that a poll has told. -/
theorem cause?_asked (h : u.sees scope = some cause) :
    ∃ id, scope = some id ∧ (u.asked scope).scopes.cause? id = some cause := by
  cases scope with
  | none => cases h
  | some id => exact ⟨id, rfl, Scopes.cause?_poll h⟩

/-! ### Writes -/

/-- A fault of reading or writing: anything that breaks an upload off but the cancellation of its
scope. -/
def Break.IsFault (e : Break) : Prop := ∀ cause, e ≠ .cancelled cause

theorem Break.isFault_failed (text : String) : IsFault (.failed text) := by
  rintro cause ⟨⟩

theorem Break.isFault_stuck : IsFault .stuck := by
  rintro cause ⟨⟩

/-- How a part of an upload that only writes ends: it has written its bytes, or a fault has struck
when a beginning of them was written. -/
def Written (u : Upload) (bs : Bytes) (r : Except Break Unit) (v : Upload) : Prop :=
  r = .ok () ∧ Wrote u v bs 0 ∨
    ∃ e part, r = .error e ∧ Break.IsFault e ∧ part <+: bs ∧ Wrote u v part 0

/-- A write either adds its bytes to the stream, or it adds nothing. -/
theorem socket_write (s : Socket) (bs : Bytes) :
    s.write bs = (.done, { s with writes := bs :: s.writes, written := s.written + bs.length }) ∨
      ∃ outcome, s.write bs = (outcome, s) ∧ outcome ≠ .done := by
  unfold Socket.write
  split
  · cases s.isShut with
    | true => exact .inr ⟨.failed s.writeFailure, rfl, by simp⟩
    | false => exact .inr ⟨.blocked, rfl, by simp⟩
  · split
    · next limit _ =>
      by_cases full : limit < s.written + bs.length
      · exact .inr ⟨.failed s.writeFailure, if_pos full, by simp⟩
      · exact .inl (if_neg full)
    · exact .inl rfl

theorem ends_write (bs : Bytes) (u : Upload) : Ends (write bs) u fun r v =>
    r = .ok () ∧ Wrote u v bs 0 ∨ ∃ e, r = .error e ∧ Break.IsFault e ∧ Wrote u v [] 0 := by
  have stream : (bs :: u.socket.writes).reverse.flatten = u.socket.stream ++ bs := by
    simp [Socket.stream]
  unfold Ends write
  rw [get_bind_apply]
  obtain done | ⟨outcome, same, failed⟩ := socket_write u.socket bs
  · rw [done]
    exact .inl ⟨rfl, stream, rfl, rfl, rfl, rfl, rfl⟩
  · rw [same]
    have nothing : ∀ scopes, Wrote u { u with scopes } [] 0 :=
      fun scopes => ⟨(List.append_nil _).symm, rfl, rfl, rfl, rfl, rfl⟩
    cases outcome with
    | done => exact absurd rfl failed
    | failed text => exact .inr ⟨.failed text, rfl, Break.isFault_failed text, nothing _⟩
    | blocked => exact .inr ⟨.stuck, rfl, Break.isFault_stuck, nothing _⟩

theorem ends_writes (parts : List Bytes) (u : Upload) :
    Ends (parts.forM write) u (Written u parts.flatten) := by
  induction parts generalizing u with
  | nil => exact .inl ⟨rfl, .refl u⟩
  | cons bs parts ih =>
    refine (ends_write bs u).bind ?_ ?_
    · rintro ⟨⟩ v (⟨-, wrote⟩ | ⟨e, ⟨⟩, -⟩)
      refine (ih v).mono ?_
      rintro r w (⟨rfl, wrote'⟩ | ⟨e, part, rfl, fault, begins, wrote'⟩)
      · exact .inl ⟨rfl, wrote.trans wrote'⟩
      · refine .inr ⟨e, bs ++ part, rfl, fault, ?_, wrote.trans wrote'⟩
        exact (List.prefix_append_right_inj bs).2 begins
    · rintro e v (⟨⟨⟩, -⟩ | ⟨e, ⟨⟩, fault, wrote⟩)
      exact .inr ⟨e, [], rfl, fault, List.nil_prefix, wrote⟩

/-! ### Lines -/

/-- A line either finds the scope cancelled, and nothing of it is sent, or it is sent as a chunk,
as far as no fault strikes. -/
theorem ends_line (scope : Option ScopeId) (bs : Bytes) (u : Upload) :
    Ends (line scope bs) u fun r v =>
      (∃ cause, u.sees scope = some cause ∧ r = .error (.cancelled cause) ∧ v = u.asked scope) ∨
      u.sees scope = none ∧
        (r = .ok () ∧ Wrote u v (Chunked.chunk bs).flatten bs.length ∨
          ∃ e part, r = .error e ∧ Break.IsFault e ∧ part <+: (Chunked.chunk bs).flatten ∧
            Wrote u v part 0) := by
  have quiet := wrote_asked scope u
  unfold Ends line
  rw [bind_apply, check_apply]
  cases seen : u.sees scope with
  | some cause => exact .inl ⟨cause, rfl, rfl, rfl⟩
  | none =>
    have rest : Ends (do (Chunked.chunk bs).forM write
                         modify fun u => { u with payload := u.payload + bs.length })
        (u.asked scope) fun r v =>
          r = .ok () ∧ Wrote u v (Chunked.chunk bs).flatten bs.length ∨
          ∃ e part, r = .error e ∧ Break.IsFault e ∧ part <+: (Chunked.chunk bs).flatten ∧
            Wrote u v part 0 := by
      refine (ends_writes (Chunked.chunk bs) (u.asked scope)).bind ?_ ?_
      · rintro ⟨⟩ v (⟨-, wrote⟩ | ⟨e, part, ⟨⟩, -⟩)
        have counted : Wrote v { v with payload := v.payload + bs.length } [] bs.length :=
          ⟨(List.append_nil _).symm, rfl, rfl, rfl, rfl, rfl⟩
        have all := (quiet.trans wrote).trans counted
        rw [List.nil_append, List.append_nil, Nat.add_zero, Nat.zero_add] at all
        exact .inl ⟨rfl, all⟩
      · rintro e v (⟨⟨⟩, -⟩ | ⟨e, part, ⟨⟩, fault, begins, wrote⟩)
        exact .inr ⟨_, part, rfl, fault, begins, quiet.trans wrote⟩
    exact .inr ⟨rfl, rest⟩

/-- Lines are sent one after the other, and no poll before one of them sees the scope cancelled. -/
inductive Passes (scope : Option ScopeId) : Upload → List Bytes → Upload → Prop
  | nil (u : Upload) : Passes scope u [] u
  | cons {u v w : Upload} {bs : Bytes} {lines : List Bytes} (unseen : u.sees scope = none)
      (sent : line scope bs u = (.ok (), v)) (rest : Passes scope v lines w) :
      Passes scope u (bs :: lines) w

theorem Passes.wrote {lines : List Bytes} (h : Passes scope u lines v) :
    Wrote u v (lines.flatMap Chunked.chunk).flatten lines.flatten.length := by
  induction h with
  | nil u => exact .refl u
  | cons unseen sent rest ih =>
    rename_i u v w bs lines
    have line := ends_line scope bs u
    unfold Ends at line
    rw [sent] at line
    obtain ⟨cause, -, ⟨⟩, -⟩ | ⟨-, ⟨-, wrote⟩ | ⟨e, part, ⟨⟩, -⟩⟩ := line
    rw [List.flatMap_cons, List.flatten_append, List.flatten_cons, List.length_append]
    exact wrote.trans ih

/-- The scope is seen cancelled at the poll before a line: `k` lines were sent by then. -/
def SeesAt (scope : Option ScopeId) (u : Upload) (lines : List Bytes) (k : Nat) (cause : Cause) :
    Prop :=
  k < lines.length ∧ ∃ v, Passes scope u (lines.take k) v ∧ v.sees scope = some cause

/-- Once the scope is seen cancelled, no more lines are sent. -/
theorem forM_of_seesAt {lines : List Bytes} {k : Nat} (h : SeesAt scope u lines k cause) :
    ∃ v, lines.forM (line scope) u = (.error (.cancelled cause), v) ∧
      Wrote u v ((lines.take k).flatMap Chunked.chunk).flatten (lines.take k).flatten.length ∧
      ∃ id, scope = some id ∧ v.scopes.cause? id = some cause := by
  obtain ⟨within, w, passes, seen⟩ := h
  have quiet := passes.wrote.trans (wrote_asked scope w)
  rw [List.append_nil, Nat.add_zero] at quiet
  refine ⟨w.asked scope, ?_, quiet, cause?_asked seen⟩
  clear quiet
  -- by induction on the lines that are sent before
  induction k generalizing lines u with
  | zero =>
    cases passes
    obtain _ | ⟨bs, lines⟩ := lines
    · cases within
    · show (do line scope bs; lines.forM (line scope)) w = _
      have stops : line scope bs w = (.error (.cancelled cause), w.asked scope) := by
        unfold line
        rw [bind_apply, check_apply, seen]
      rw [bind_apply, stops]
  | succ k ih =>
    obtain _ | ⟨bs, lines⟩ := lines
    · cases within
    · cases passes with
      | cons unseen sent rest =>
        show (do line scope bs; lines.forM (line scope)) u = _
        rw [bind_apply, sent]
        exact ih (Nat.lt_of_succ_lt_succ within) rest

/-- Why an upload breaks off at its lines: a fault has struck, or the scope is seen cancelled at the
poll before one of them. -/
def Breaks (scope : Option ScopeId) (u : Upload) (lines : List Bytes) (e : Break) : Prop :=
  Break.IsFault e ∨ ∃ k cause, e = .cancelled cause ∧ SeesAt scope u lines k cause

/-- How the sending of lines ends: all are sent, or it breaks off when a beginning of them was
written. -/
theorem ends_lines (scope : Option ScopeId) (lines : List Bytes) (u : Upload) :
    Ends (lines.forM (line scope)) u fun r v =>
      r = .ok () ∧ Passes scope u lines v ∨
      ∃ e part n, r = .error e ∧ Breaks scope u lines e ∧
        part <+: (lines.flatMap Chunked.chunk).flatten ∧ Wrote u v part n := by
  induction lines generalizing u with
  | nil => exact .inl ⟨rfl, .nil u⟩
  | cons bs lines ih =>
    show Ends (do line scope bs; lines.forM (line scope)) u _
    have whole : ((bs :: lines).flatMap Chunked.chunk).flatten =
        (Chunked.chunk bs).flatten ++ (lines.flatMap Chunked.chunk).flatten := by
      rw [List.flatMap_cons, List.flatten_append]
    rw [whole]
    unfold Ends
    rw [bind_apply]
    have first := ends_line scope bs u
    unfold Ends at first
    rcases sent : line scope bs u with ⟨e | ⟨⟨⟩⟩, v⟩
    · rw [sent] at first
      obtain ⟨cause, seen, ⟨⟩, rfl⟩ | ⟨-, ⟨⟨⟩, -⟩ | ⟨_, part, ⟨⟩, fault, begins, wrote⟩⟩ := first
      · refine .inr ⟨.cancelled cause, [], 0, rfl, .inr ?_, List.nil_prefix, wrote_asked scope u⟩
        exact ⟨0, cause, rfl, Nat.zero_lt_succ _, u, .nil u, seen⟩
      · exact .inr ⟨e, part, 0, rfl, .inl fault, begins.trans (List.prefix_append _ _), wrote⟩
    · rw [sent] at first
      obtain ⟨cause, -, ⟨⟩, -⟩ | ⟨unseen, ⟨-, wrote⟩ | ⟨_, part, ⟨⟩, -⟩⟩ := first
      obtain ⟨ok, passes⟩ | ⟨e, part, n, failed, why, begins, wrote'⟩ := ih v
      · exact .inl ⟨ok, .cons unseen sent passes⟩
      · refine .inr ⟨e, _, _, failed, why.imp_right ?_, ?_, wrote.trans wrote'⟩
        · rintro ⟨k, cause, cancelled, within, w, passes, seen⟩
          exact ⟨k + 1, cause, cancelled, Nat.succ_lt_succ within, w, .cons unseen sent passes, seen⟩
        · exact (List.prefix_append_right_inj _).2 begins

/-! ### Whole uploads -/

/-- How the end of a body ends: it is not written, or it is, and then only flushing it may fail. -/
theorem ends_finish (u : Upload) : Ends finish u fun r v =>
    (∃ e, r = .error e ∧ Break.IsFault e ∧ Wrote u v [] 0) ∨
      (r = .ok () ∨ ∃ text, r = .error (.failed text) ∧ u.socket.flushFailure = some text) ∧
        Wrote u v Chunked.terminator 0 := by
  refine (ends_write Chunked.terminator u).bind ?_ ?_
  · rintro ⟨⟩ v (⟨-, wrote⟩ | ⟨e, ⟨⟩, -⟩)
    unfold Ends
    rw [get_bind_apply, wrote.flush]
    cases flushed : u.socket.flushFailure with
    | none => exact .inr ⟨.inl rfl, wrote⟩
    | some text => exact .inr ⟨.inr ⟨text, rfl, rfl⟩, wrote⟩
  · rintro e v (⟨⟨⟩, -⟩ | ⟨_, ⟨⟩, fault, wrote⟩)
    exact .inl ⟨e, rfl, fault, wrote⟩

/-- How the body of an upload ends: it breaks off before its end is written; or all of it is
written, and then only flushing it may fail. -/
def BodyEnded (scope : Option ScopeId) (handed : Handed) (u : Upload) (r : Except Break Unit)
    (v : Upload) : Prop :=
  (∃ e part n, r = .error e ∧ Breaks scope u handed.lines e ∧
    part <+: (handed.lines.flatMap Chunked.chunk).flatten ∧ Wrote u v part n) ∨
  (r = .ok () ∨ ∃ text, r = .error (.failed text) ∧ u.socket.flushFailure = some text) ∧
    handed.failure = none ∧ Wrote u v (Chunked.encode handed.lines) handed.lines.flatten.length

theorem ends_body (scope : Option ScopeId) (handed : Handed) (u : Upload) :
    Ends (do send scope handed; finish) u (BodyEnded scope handed u) := by
  unfold send
  rw [bind_assoc]
  refine (ends_lines scope handed.lines u).bind ?_ ?_
  · rintro ⟨⟩ v (⟨-, passes⟩ | ⟨e, part, n, ⟨⟩, -⟩)
    have lines := passes.wrote
    unfold BodyEnded
    cases failed : handed.failure with
    | some text => exact .inl ⟨.failed text, _, _, rfl, .inl (Break.isFault_failed text), List.prefix_rfl, lines⟩
    | none =>
      refine (ends_finish v).mono ?_
      rintro r w (⟨e, rfl, fault, wrote⟩ | ⟨ends, wrote⟩)
      · have all := lines.trans wrote
        rw [List.append_nil] at all
        exact .inl ⟨e, _, _, rfl, .inl fault, List.prefix_rfl, all⟩
      · rw [lines.flush] at ends
        exact .inr ⟨ends, rfl, lines.trans wrote⟩
  · rintro e v (⟨⟨⟩, -⟩ | ⟨_, part, n, ⟨⟩, why, begins, wrote⟩)
    exact .inl ⟨e, part, n, rfl, why, begins, wrote⟩

variable (scope : Option ScopeId) (separator : Bytes) (files : List LocalFile)

/-- The scope is first seen cancelled at the poll before line `k`, counted over all files. -/
def SeenAt (u : Upload) (k : Nat) (cause : Cause) : Prop :=
  ∃ v, write head u = (.ok (), v) ∧
    SeesAt scope v (Handed.ofFiles (delimiterOf separator) files).lines k cause

/-- How an upload ends: not even its head can be written, or its body ends in its way. -/
theorem ends_run (u : Upload) : Ends (run scope separator files) u fun r v =>
    (∃ e, r = .error e ∧ Break.IsFault e ∧ Wrote u v [] 0) ∨
      ∃ begun, write head u = (.ok (), begun) ∧ Wrote u begun head 0 ∧
        BodyEnded scope (Handed.ofFiles (delimiterOf separator) files) begun r v := by
  have first := ends_write head u
  rw [run_eq]
  unfold Ends at first ⊢
  rw [bind_apply]
  rcases opened : write head u with ⟨e | ⟨⟨⟩⟩, v⟩
  · rw [opened] at first
    obtain ⟨⟨⟩, -⟩ | ⟨_, ⟨⟩, fault, wrote⟩ := first
    exact .inl ⟨e, rfl, fault, wrote⟩
  · rw [opened] at first
    obtain ⟨-, begun⟩ | ⟨_, ⟨⟩, -⟩ := first
    exact .inr ⟨v, rfl, begun, ends_body scope _ v⟩

/-- An upload is cancelled only because its scope is seen cancelled before one of its lines. -/
theorem exists_seenAt {scope : Option ScopeId} {separator : Bytes} {files : List LocalFile}
    {u v : Upload} {r : Except Break Unit} {cause : Cause}
    (runs : run scope separator files u = (r, v)) (cancelled : r = .error (.cancelled cause)) :
    ∃ k, SeenAt scope separator files u k cause := by
  have ends := ends_run scope separator files u
  unfold Ends at ends
  rw [runs, cancelled] at ends
  obtain ⟨_, ⟨⟩, fault, -⟩ | ⟨begun, opened, -, ⟨_, -, -, ⟨⟩, why, -⟩ | ⟨ends, -⟩⟩ := ends
  · exact absurd rfl (fault cause)
  · obtain fault | ⟨k, _, ⟨⟩, seen⟩ := why
    · exact absurd rfl (fault cause)
    · exact ⟨k, begun, opened, seen⟩
  · obtain ⟨⟨⟩⟩ | ⟨text, ⟨⟩, -⟩ := ends

/-- An upload whose scope is seen cancelled stops there. -/
theorem run_of_seenAt {scope : Option ScopeId} {separator : Bytes} {files : List LocalFile}
    {u : Upload} {k : Nat} {cause : Cause} (h : SeenAt scope separator files u k cause) :
    let sent := (Handed.ofFiles (delimiterOf separator) files).lines.take k
    ∃ v n, run scope separator files u = (.error (.cancelled cause), v) ∧
      Wrote u v (head ++ (sent.flatMap Chunked.chunk).flatten) n ∧
      ∃ id, scope = some id ∧ v.scopes.cause? id = some cause := by
  obtain ⟨v, opened, seen⟩ := h
  obtain ⟨w, stops, wrote, known⟩ := forM_of_seesAt seen
  have begun := ends_write head u
  unfold Ends at begun
  rw [opened] at begun
  obtain ⟨-, begun⟩ | ⟨_, ⟨⟩, -⟩ := begun
  refine ⟨w, _, ?_, begun.trans wrote, known⟩
  rw [run_eq, bind_apply, opened]
  unfold send
  rw [bind_assoc]
  show ((do List.forM _ (line scope); (do stop _; finish)) : Step Unit) v = _
  rw [bind_apply, stops]

/-- An upload whose files can all be read sends the head and then the body. -/
theorem sends_run_of_readable
    (readable : (Handed.ofFiles (delimiterOf separator) files).failure = none) :
    Sends (run scope separator files) (head ++ body separator (files.map blocksOf))
      (files.map fun file => (blocksOf file).flatten).flatten.length := by
  have lines := (Handed.from_ofFiles (delimiterOf separator) files).all readable
  have contents := flatten_lines (delimiterOf separator) (files.map blocksOf)
  rw [List.map_map] at contents
  rw [run_eq]
  unfold send
  rw [readable, lines]
  refine ((sends_write head).seq
    ((((sends_lines scope _).seq .pure)).seq sends_finish)).congr ?_ ?_
  · rw [List.append_nil]
    rfl
  · rw [contents]
    simp only [Nat.zero_add, Nat.add_zero]
    rfl

end Upload

/-! ### What the server is left with -/

/-- A beginning of a body that lacks its end.  A strict receiver does not take it for a body, and the
chunks that are there in full carry a beginning of the contents. -/
structure Chunked.Partial (body contents part : Bytes) : Prop where
  begins : part <+: body
  cut : part ≠ body
  refused : Chunked.decode part = none
  carries : (Chunked.whole part).flatten <+: contents

namespace Endpoint

open Upload

variable (e : Endpoint) (scope : Option ScopeId) (separator : Bytes) (files : List LocalFile)
  (scopes : Scopes)

/-- Whatever is written of the lines of files, without the end of the body, is a part of the body. -/
theorem partial_of_prefix {part : Bytes} (h : part <+:
      ((Handed.ofFiles (delimiterOf separator) files).lines.flatMap Chunked.chunk).flatten) :
    Chunked.Partial (body separator (files.map blocksOf))
      (files.map fun file => (blocksOf file).flatten).flatten part := by
  have handed := (Handed.from_ofFiles (delimiterOf separator) files).begins
  have contents := flatten_lines (delimiterOf separator) (files.map blocksOf)
  rw [List.map_map] at contents
  have solid : ∀ piece ∈ (files.map blocksOf).flatMap (Lines.ofBlocks (delimiterOf separator)),
      piece ≠ [] := by
    intro piece hp
    obtain ⟨blocks, -, hb⟩ := List.mem_flatMap.1 hp
    exact Lines.ofBlocks_ne_nil _ hb
  unfold body
  generalize (files.map blocksOf).flatMap (Lines.ofBlocks (delimiterOf separator)) = lines at *
  -- the part ends within the chunks of the lines, and the end of the body stands behind them
  have within : part <+: (lines.flatMap Chunked.chunk).flatten := by
    obtain ⟨more, rfl⟩ := handed
    rw [List.flatMap_append, List.flatten_append]
    exact h.trans (List.prefix_append _ _)
  have begins : part <+: Chunked.encode lines := within.trans (List.prefix_append _ _)
  have cut : part ≠ Chunked.encode lines := by
    intro same
    have short := within.length_le
    rw [same, Chunked.encode, List.length_append] at short
    have ending : 0 < Chunked.terminator.length := by decide
    omega
  obtain ⟨refused, pieces⟩ := Chunked.decode_of_cut (Chunked.decode_encode solid) begins cut
  refine ⟨begins, cut, refused, ?_⟩
  obtain ⟨more, rfl⟩ := pieces
  show _ <+: ((files.map (List.flatten ∘ blocksOf))).flatten
  rw [← contents, List.flatten_append]
  exact List.prefix_append _ _

/-- What is known of an upload in which something may go wrong. -/
structure BreaksOff (turn : Ending × Endpoint × Scopes × List Note) : Prop where
  /-- Unless it succeeds, what stands behind the head is a part of the body.  It is the whole body
  only if the end of the body was written and could not be flushed. -/
  cut : turn.1.succeeds = false →
    (∃ opening part, turn.2.1.socket.stream = e.socket.stream ++ opening ++ part ∧
      (opening = head ∨ opening = [] ∧ part = []) ∧
      Chunked.Partial (body separator (files.map blocksOf))
        (files.map fun file => (blocksOf file).flatten).flatten part) ∨
    e.socket.flushFailure.isSome ∧
      turn.2.1.socket.stream = e.socket.stream ++ head ++ body separator (files.map blocksOf)
  /-- If the scope is first seen cancelled at the poll before a line, just the lines before it are
  sent, and the upload ends with the cause that the scope then has. -/
  seen : e.isOpen = true → ∀ k cause, SeenAt scope separator files ⟨e.socket, scopes, 0⟩ k cause →
    turn.1 = .done (.error (.cancelled cause)) ∧
    (∃ id, scope = some id ∧ turn.2.2.1.cause? id = some cause) ∧
    turn.2.1.socket.stream = e.socket.stream ++ head ++
      (((Handed.ofFiles (delimiterOf separator) files).lines.take k).flatMap Chunked.chunk).flatten
  /-- An upload does not end as cancelled for any other reason. -/
  only : ∀ cause, turn.1 = .done (.error (.cancelled cause)) →
    ∃ k, SeenAt scope separator files ⟨e.socket, scopes, 0⟩ k cause
  /-- If no poll sees the scope cancelled and nothing fails, the whole body is written. -/
  completes : e.isOpen = true → (∀ k cause, ¬ SeenAt scope separator files ⟨e.socket, scopes, 0⟩ k cause) →
    (Handed.ofFiles (delimiterOf separator) files).failure = none →
    e.socket.Takes (head ++ body separator (files.map blocksOf)).length →
    turn.1 = .done (.ok (files.map fun file => (blocksOf file).flatten).flatten.length) ∧
      turn.2.1.socket.stream = e.socket.stream ++ head ++ body separator (files.map blocksOf)

/-- What is told of an upload, by how its steps end. -/
def told (e : Endpoint) (u : Upload) : Except Break Unit → Ending × List Note
  | .ok () => (.done (.ok u.payload),
      [⟨.info, "Uploaded " ++ toString u.payload ++ " bytes to " ++ e.url⟩])
  | .error (.failed text) =>
    (.done (.error (failure ("could not stream file to " ++ e.url ++ ": " ++ text))), [])
  | .error (.cancelled cause) => (.done (.error (.cancelled cause)), [])
  | .error .stuck => (.stuck, [])

theorem upload_of_open {e : Endpoint} (isOpen : e.isOpen = true) {r : Except Break Unit} {u : Upload}
    (runs : Upload.run scope separator files ⟨e.socket, scopes, 0⟩ = (r, u)) :
    e.upload scope separator files scopes =
      ((told { e with socket := u.socket } u r).1, { e with socket := u.socket }, u.scopes,
        (told { e with socket := u.socket } u r).2) := by
  unfold upload
  rw [if_pos isOpen]
  have runs' : (Upload.run scope separator files).run ⟨e.socket, scopes, 0⟩ = (r, u) := runs
  rw [runs']
  obtain (_ | _ | _) | ⟨⟨⟩⟩ := r
  · rfl
  · rfl
  · rfl
  · rfl

theorem told_cancelled {e : Endpoint} {u : Upload} {r : Except Break Unit} {cause : Cause}
    (h : (told e u r).1 = .done (.error (.cancelled cause))) : r = .error (.cancelled cause) := by
  obtain (_ | _ | _) | ⟨⟨⟩⟩ := r <;> cases h
  rfl

/-- An upload that breaks off is never taken for a complete one. -/
theorem upload_breaks_off :
    BreaksOff e scope separator files scopes (e.upload scope separator files scopes) := by
  by_cases isOpen : e.isOpen = true
  · have ends := ends_run scope separator files ⟨e.socket, scopes, 0⟩
    unfold Ends at ends
    rcases runs : Upload.run scope separator files ⟨e.socket, scopes, 0⟩ with ⟨r, u⟩
    rw [runs] at ends
    rw [upload_of_open scope separator files scopes isOpen runs]
    constructor
    case cut =>
      intro failed
      obtain ⟨-, -, -, wrote⟩ | ⟨begun, -, begins, ⟨-, part, n, -, -, within, wrote⟩ |
        ⟨rfl | ⟨text, -, flushed⟩, readable, wrote⟩⟩ := ends
      · refine .inl ⟨[], [], ?_, .inr ⟨rfl, rfl⟩, ?_⟩
        · exact wrote.stream.trans (by simp)
        · exact partial_of_prefix separator files List.nil_prefix
      · refine .inl ⟨head, part, ?_, .inl rfl, partial_of_prefix separator files within⟩
        exact (begins.trans wrote).stream.trans (List.append_assoc _ _ _).symm
      · cases failed
      · have lines := (Handed.from_ofFiles (delimiterOf separator) files).all readable
        rw [begins.flush] at flushed
        refine .inr ⟨Option.isSome_of_eq_some flushed, ?_⟩
        rw [lines] at wrote
        exact (begins.trans wrote).stream.trans (List.append_assoc _ _ _).symm
    case seen =>
      rintro - k cause seen
      obtain ⟨v, n, stops, wrote, known⟩ := run_of_seenAt seen
      cases runs.symm.trans stops
      exact ⟨rfl, known, wrote.stream.trans (List.append_assoc _ _ _).symm⟩
    case only =>
      intro cause cancelled
      exact exists_seenAt runs (told_cancelled cancelled)
    case completes =>
      intro _ unseen readable sound
      have sent := sends_run_of_readable scope separator files readable ⟨e.socket, scopes, 0⟩ sound
      unfold Ends at sent
      rw [runs] at sent
      obtain ⟨cause, rfl⟩ | ⟨rfl, wrote⟩ := sent
      · -- the upload would have been cancelled at one of its lines
        obtain ⟨k, seen⟩ := exists_seenAt runs rfl
        exact absurd seen (unseen k cause)
      · refine ⟨?_, wrote.stream.trans (List.append_assoc _ _ _).symm⟩
        show Ending.done (.ok u.payload) = _
        rw [wrote.payload, Nat.zero_add]
  · have refused : e.upload scope separator files scopes =
        (.done (.error closedFailure), e, scopes, []) := if_neg isOpen
    rw [refused]
    constructor
    case cut =>
      intro _
      refine .inl ⟨[], [], by simp, .inr ⟨rfl, rfl⟩, ?_⟩
      exact partial_of_prefix separator files List.nil_prefix
    case seen => exact fun h => absurd h isOpen
    case only => nofun
    case completes => exact fun h => absurd h isOpen

end Endpoint
end ExaWire.Import
