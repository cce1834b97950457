/-
ExaWire/Proofs/Import/Lines.lean

Lines lose nothing.

Every byte that is read goes to the end of the line that is begun, and completing a
line moves it whole, together with its delimiter.  So at any time the complete lines
and the one begun make up what was read, whatever the delimiter is and wherever a
block ends; and no line is ever empty, because it has a delimiter of its own.
-/
import ExaWire.Import.Lines

namespace ExaWire.Import.Lines

/-- What was read so far. -/
def bytes (l : Lines) : Bytes := l.complete.reverse.flatten ++ l.begun.reverse

/-- No complete line is empty. -/
def Solid (l : Lines) : Prop := ∀ line ∈ l.complete, line ≠ []

variable (delimiter : Bytes) (l : Lines)

/-! ### One block -/

section Scan

variable (d : UInt8) (ds : Bytes)

/-- Bytes that belong to a delimiter are passed over. -/
theorem scan_skip (skip : Nat) (bs : Bytes) : scan d ds skip l bs = scan d ds 0 l (bs.drop skip) := by
  induction skip generalizing bs with
  | zero => rfl
  | succ skip ih =>
    cases bs with
    | nil => rfl
    | cons b bs => exact ih bs

/-- A delimiter ends the line that is begun. -/
theorem scan_delimiter (rest : Bytes) :
    scan d ds 0 l (d :: ds ++ rest) =
      scan d ds 0 ⟨(l.begun.reverse ++ d :: ds) :: l.complete, []⟩ rest := by
  have found : (d :: ds).isPrefixOf (d :: (ds ++ rest)) = true :=
    List.isPrefixOf_iff_prefix.2 ⟨rest, rfl⟩
  rw [List.cons_append, scan, if_pos found, scan_skip, List.drop_left]

/-- A byte at which no delimiter begins belongs to the line that is begun. -/
theorem scan_cons {b : UInt8} {bs : Bytes} (h : ¬ d :: ds <+: b :: bs) :
    scan d ds 0 l (b :: bs) = scan d ds 0 { l with begun := b :: l.begun } bs := by
  rw [scan, if_neg (mt List.isPrefixOf_iff_prefix.1 h)]

/-- What holds of a reader after a search, if every delimiter and every other byte keeps it. -/
theorem scan_induction {P : Lines → Bytes → Prop} {l : Lines} {bs : Bytes} (start : P l bs)
    (line : ∀ l rest, P l (d :: ds ++ rest) →
      P ⟨(l.begun.reverse ++ d :: ds) :: l.complete, []⟩ rest)
    (byte : ∀ l b rest, ¬ d :: ds <+: b :: rest → P l (b :: rest) →
      P { l with begun := b :: l.begun } rest) : P (scan d ds 0 l bs) [] := by
  -- by induction on the number of bytes ahead: a delimiter is a step over several of them
  induction size : bs.length using Nat.strongRecOn generalizing l bs with
  | ind size ih =>
    cases bs with
    | nil => exact start
    | cons b bs =>
      by_cases h : d :: ds <+: b :: bs
      · obtain ⟨rest, e⟩ := h
        rw [← e] at start size ⊢
        rw [scan_delimiter]
        exact ih rest.length (by simp at size; omega) (line l rest start) rfl
      · rw [scan_cons l d ds h]
        exact ih bs.length (by simp at size; omega) (byte l b bs h start) rfl

end Scan

theorem bytes_read (block : Bytes) : (l.read delimiter block).bytes = l.bytes ++ block := by
  cases delimiter with
  | nil => simp [read, bytes]
  | cons d ds =>
    have kept : { l with begun := l.begun.drop ds.length }.bytes ++
        ((l.begun.take ds.length).reverse ++ block) = l.bytes ++ block := by
      simp only [bytes, List.append_assoc]
      rw [← List.append_assoc (List.reverse _), ← List.reverse_append, List.take_append_drop]
    have whole := scan_induction d ds (P := fun l' ahead => l'.bytes ++ ahead = l.bytes ++ block) kept
      (fun l' rest h => by simpa [bytes] using h) fun l' b rest _ h => by simpa [bytes] using h
    rwa [List.append_nil] at whole

theorem Solid.read {l : Lines} (h : l.Solid) (block : Bytes) : (l.read delimiter block).Solid := by
  cases delimiter with
  | nil => exact h
  | cons d ds =>
    refine scan_induction d ds (P := fun l' _ => l'.Solid) h (fun l' _ h' => ?_) fun _ _ _ _ h' => h'
    exact List.forall_mem_cons.2 ⟨by simp, h'⟩

/-! ### A whole file -/

theorem bytes_foldl (blocks : List Bytes) :
    (blocks.foldl (read delimiter) l).bytes = l.bytes ++ blocks.flatten := by
  induction blocks generalizing l with
  | nil => simp
  | cons block blocks ih =>
    rw [List.foldl_cons, ih, bytes_read, List.append_assoc, List.flatten_cons]

theorem Solid.foldl {l : Lines} (h : l.Solid) (blocks : List Bytes) :
    (blocks.foldl (Lines.read delimiter) l).Solid := by
  induction blocks generalizing l with
  | nil => exact h
  | cons block blocks ih => exact ih (h.read delimiter block)

theorem flatten_finish : l.finish.flatten = l.bytes := by
  unfold finish bytes
  split
  · next h => simp [List.isEmpty_iff.1 h]
  · simp

theorem Solid.finish {l : Lines} (h : l.Solid) : ∀ line ∈ l.finish, line ≠ [] := by
  intro line hl
  obtain hl | hl := List.mem_append.1 hl
  · exact h line (List.mem_reverse.1 hl)
  · split at hl
    · cases hl
    · next begun =>
      rw [List.mem_singleton.1 hl]
      simpa using begun

/-- The lines of a file are the file. -/
theorem flatten_ofBlocks (blocks : List Bytes) : (ofBlocks delimiter blocks).flatten = blocks.flatten := by
  rw [ofBlocks, flatten_finish, bytes_foldl]
  rfl

theorem ofBlocks_ne_nil {blocks : List Bytes} {line : Bytes} (h : line ∈ ofBlocks delimiter blocks) :
    line ≠ [] :=
  (Solid.foldl delimiter (l := {}) (by simp [Solid]) blocks).finish line h

/-! ### Lines that are taken on the way -/

/-- A reader with more complete lines in front. -/
def behind (l : Lines) (earlier : List Bytes) : Lines := { l with complete := l.complete ++ earlier }

theorem scan_behind (earlier : List Bytes) (d : UInt8) (ds : Bytes) (skip : Nat) (bs : Bytes) :
    scan d ds skip (l.behind earlier) bs = (scan d ds skip l bs).behind earlier := by
  fun_induction scan d ds skip l bs with
  | case1 => rw [scan]
  | case2 skip l _ bs ih => rw [scan, ih]
  | case3 l b bs h ih =>
    rw [scan, if_pos h, ← ih]
    rfl
  | case4 l b bs h ih =>
    rw [scan, if_neg h, ← ih]
    rfl

theorem read_behind (earlier : List Bytes) (block : Bytes) :
    (l.behind earlier).read delimiter block = (l.read delimiter block).behind earlier := by
  cases delimiter with
  | nil => rfl
  | cons d ds => exact scan_behind { l with begun := l.begun.drop ds.length } earlier d ds 0 _

theorem foldl_behind (earlier : List Bytes) (blocks : List Bytes) :
    blocks.foldl (read delimiter) (l.behind earlier) =
      (blocks.foldl (read delimiter) l).behind earlier := by
  induction blocks generalizing l with
  | nil => rfl
  | cons block blocks ih => rw [List.foldl_cons, List.foldl_cons, read_behind, ih]

theorem finish_behind (earlier : List Bytes) : (l.behind earlier).finish = earlier.reverse ++ l.finish := by
  simp [finish, behind]

/-- It makes no difference whether complete lines are taken away between two blocks. -/
theorem finish_take (blocks : List Bytes) :
    (blocks.foldl (read delimiter) l).finish =
      l.take.1 ++ (blocks.foldl (read delimiter) l.take.2).finish := by
  have e : l = l.take.2.behind l.complete := by simp [take, behind]
  calc (blocks.foldl (read delimiter) l).finish
      = ((blocks.foldl (read delimiter) l.take.2).behind l.complete).finish := by
        rw [← foldl_behind, ← e]
    _ = l.take.1 ++ (blocks.foldl (read delimiter) l.take.2).finish := finish_behind _ _

end ExaWire.Import.Lines
