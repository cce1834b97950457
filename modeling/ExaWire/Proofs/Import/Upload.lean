/-
ExaWire/Proofs/Import/Upload.lean

An upload delivers its files.

A part of an upload *sends* some bytes, which carry so much payload, if it writes just
these bytes to any socket that takes them, unless it finds its scope cancelled.  Parts
that are run one after the other send what they send one after the other, and so a
whole upload sends the head and one body, whose pieces are the lines of the files.
-/
import ExaWire.Import.Endpoint
import ExaWire.Proofs.Action
import ExaWire.Proofs.Import.Chunked
import ExaWire.Proofs.Import.Lines
import Mathlib.Algebra.GroupWithZero.Nat

namespace ExaWire

open Network

/-- A socket takes so many bytes: writing does not wait, and neither writing nor flushing
fails. -/
structure Network.Socket.Takes (s : Socket) (size : Nat) : Prop where
  flows : s.blocks = false
  room : ∀ limit, s.writeLimit = some limit → s.written + size ≤ limit
  flushes : s.flushFailure = none

namespace Import.Upload

/-- What was written between two moments of an upload, and how much payload it carried. -/
structure Wrote (u v : Upload) (bs : Bytes) (payload : Nat) : Prop where
  stream : v.socket.stream = u.socket.stream ++ bs
  written : v.socket.written = u.socket.written + bs.length
  blocks : v.socket.blocks = u.socket.blocks
  limit : v.socket.writeLimit = u.socket.writeLimit
  flush : v.socket.flushFailure = u.socket.flushFailure
  payload : v.payload = u.payload + payload

namespace Wrote

variable {u v w : Upload} {bs cs : Bytes} {m n : Nat}

theorem refl (u : Upload) : Wrote u u [] 0 := ⟨by simp, rfl, rfl, rfl, rfl, rfl⟩

theorem trans (h : Wrote u v bs m) (h' : Wrote v w cs n) : Wrote u w (bs ++ cs) (m + n) where
  stream := by rw [h'.stream, h.stream, List.append_assoc]
  written := by rw [h'.written, h.written, List.length_append, Nat.add_assoc]
  blocks := h'.blocks.trans h.blocks
  limit := h'.limit.trans h.limit
  flush := h'.flush.trans h.flush
  payload := by rw [h'.payload, h.payload, Nat.add_assoc]

/-- What was written takes its room. -/
theorem takes (h : Wrote u v bs m) {size : Nat} (ht : u.socket.Takes (bs.length + size)) :
    v.socket.Takes size where
  flows := h.blocks.trans ht.flows
  room limit hl := by
    rw [h.written, Nat.add_assoc]
    exact ht.room limit (h.limit.symm.trans hl)
  flushes := h.flush.trans ht.flushes

end Wrote

/-- How a part of an upload ends: its scope is found cancelled, or it has sent its bytes. -/
def Sent (u : Upload) (bs : Bytes) (payload : Nat) (r : Except Break Unit) (v : Upload) : Prop :=
  (∃ cause, r = .error (.cancelled cause)) ∨ r = .ok () ∧ Wrote u v bs payload

/-- A part of an upload sends bytes that carry some payload. -/
def Sends (a : Step Unit) (bs : Bytes) (payload : Nat) : Prop :=
  ∀ u : Upload, u.socket.Takes bs.length → Ends a u (Sent u bs payload)

/-! ### Parts -/

namespace Sends

variable {a b : Step Unit} {bs cs : Bytes} {m n : Nat}

theorem seq (ha : Sends a bs m) (hb : Sends b cs n) : Sends (do a; b) (bs ++ cs) (m + n) := by
  intro u ht
  rw [List.length_append] at ht
  have room : u.socket.Takes bs.length :=
    ⟨ht.flows, fun limit hl => by have := ht.room limit hl; omega, ht.flushes⟩
  refine (ha u room).bind ?_ ?_
  · rintro ⟨⟩ v (⟨cause, ⟨⟩⟩ | ⟨-, h⟩)
    -- the first part has taken its room, and leaves as much as the second one needs
    refine (hb v (h.takes ht)).mono ?_
    rintro r w (cancelled | ⟨rfl, h'⟩)
    · exact .inl cancelled
    · exact .inr ⟨rfl, h.trans h'⟩
  · rintro e v (⟨cause, h⟩ | ⟨⟨⟩, -⟩)
    cases h
    exact .inl ⟨cause, rfl⟩

theorem congr (h : Sends a bs m) (hb : bs = cs) (hm : m = n) : Sends a cs n := hb ▸ hm ▸ h

theorem pure : Sends (pure ()) [] 0 := fun u _ => .pure (.inr ⟨rfl, .refl u⟩)

theorem forM {α : Type} {f : α → Step Unit} {t : α → Bytes} {k : α → Nat} {xs : List α}
    (h : ∀ x ∈ xs, Sends (f x) (t x) (k x)) :
    Sends (xs.forM f) (xs.flatMap t) (xs.map k).sum := by
  induction xs with
  | nil => exact pure
  | cons x xs ih =>
    obtain ⟨hx, hxs⟩ := List.forall_mem_cons.1 h
    exact hx.seq (ih hxs)

end Sends

theorem write_of_takes {s : Socket} {bs : Bytes} (h : s.Takes bs.length) :
    s.write bs = (.done, { s with writes := bs :: s.writes, written := s.written + bs.length }) := by
  unfold Socket.write
  rw [if_neg (by simp [h.flows])]
  split
  · next limit hl => rw [if_neg (by have := h.room limit hl; omega)]
  · rfl

theorem sends_write (bs : Bytes) : Sends (write bs) bs 0 := by
  intro u ht
  have stream : (bs :: u.socket.writes).reverse.flatten = u.socket.stream ++ bs := by
    simp [Socket.stream]
  unfold Ends write
  rw [get_bind_apply, write_of_takes ht]
  exact .inr ⟨rfl, stream, rfl, rfl, rfl, rfl, rfl⟩

theorem sends_check (scope : Option ScopeId) : Sends (check scope) [] 0 := by
  intro u ht
  cases scope with
  | none => exact .pure (.inr ⟨rfl, .refl u⟩)
  | some id =>
    unfold Ends check
    dsimp only
    rw [get_bind_apply]
    rcases u.scopes.poll id with ⟨_ | cause, scopes⟩
    · exact .inr ⟨rfl, (List.append_nil _).symm, rfl, rfl, rfl, rfl, rfl⟩
    · exact .inl ⟨cause, rfl⟩

theorem sends_count (n : Nat) : Sends (modify fun u => { u with payload := u.payload + n }) [] n :=
  fun _ _ => .inr ⟨rfl, (List.append_nil _).symm, rfl, rfl, rfl, rfl, rfl⟩

/-- A line is sent as one chunk. -/
theorem sends_line (scope : Option ScopeId) (bs : Bytes) :
    Sends (line scope bs) (Chunked.chunk bs).flatten bs.length := by
  have chunk : Sends ((Chunked.chunk bs).forM write) (Chunked.chunk bs).flatten 0 := by
    have parts : Sends ((Chunked.chunk bs).forM write) _ _ := Sends.forM fun part _ => sends_write part
    refine parts.congr List.flatMap_id ?_
    simp [List.map_const']
  have all := (sends_check scope).seq (chunk.seq (sends_count bs.length))
  exact all.congr (List.append_nil _) (by simp)

theorem sends_lines (scope : Option ScopeId) (lines : List Bytes) :
    Sends (lines.forM (line scope)) (lines.flatMap Chunked.chunk).flatten lines.flatten.length :=
  (Sends.forM fun bs _ => sends_line scope bs).congr (by simp [List.flatMap, List.flatten_flatten, Function.comp_def])
    List.length_flatten.symm

theorem sends_finish : Sends finish Chunked.terminator 0 := by
  refine (Sends.seq (n := 0) (sends_write Chunked.terminator) ?_).congr (List.append_nil _) rfl
  intro u ht
  unfold Ends
  rw [get_bind_apply, ht.flushes]
  exact .inr ⟨rfl, .refl u⟩

/-! ### Whole uploads -/

/-- The body of an upload of files that are read in blocks. -/
def body (separator : Bytes) (files : List (List Bytes)) : Bytes :=
  Chunked.encode (files.flatMap (Lines.ofBlocks (delimiterOf separator)))

/-- The lines of files are the files, one after the other. -/
theorem flatten_lines (delimiter : Bytes) (files : List (List Bytes)) :
    (files.flatMap (Lines.ofBlocks delimiter)).flatten = (files.map List.flatten).flatten := by
  induction files with
  | nil => rfl
  | cons blocks files ih =>
    rw [List.flatMap_cons, List.flatten_append, Lines.flatten_ofBlocks, ih, List.map_cons,
      List.flatten_cons]

end Import.Upload

/-! ### What the server receives -/

namespace Import.Endpoint

open Upload

/-- Whether an upload came to its end. -/
def Ending.succeeds : Ending → Bool
  | .done (.ok _) => true
  | _ => false

end Import.Endpoint

end ExaWire
