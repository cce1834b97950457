/-
ExaWire/Proofs/Import/Split.lean

Lines do not depend on how a file is read.

Bytes have exactly one split into lines: all lines but the last end where the delimiter
first stands in them, and what is left over is a last line without a delimiter.  The
reader finds this split, in whatever blocks the bytes come.

The invariant between two blocks is that no delimiter stands in the line that is begun.
Within a block the search knows more: no delimiter *begins* in what it has passed, not
even one that would go on in the bytes ahead.  The step from the former to the latter is
where the bytes that are searched again have to be enough.
-/
import ExaWire.Proofs.Import.Lines
import Mathlib.Algebra.BigOperators.Group.List.Basic
import Mathlib.Data.List.Induction

namespace ExaWire.Import.Lines

/-! ### Splits -/

/-- A line that ends where the delimiter first stands in it. -/
def Terminated (delimiter line : Bytes) : Prop :=
  delimiter <:+ line ∧ ∀ before behind, line = before ++ delimiter ++ behind → behind = []

/-- What is left over when no delimiter follows. -/
def Unterminated (delimiter line : Bytes) : Prop := line ≠ [] ∧ ¬ delimiter <:+: line

/-- The lines of some bytes: only the last one may lack its delimiter. -/
structure Splits (delimiter data : Bytes) (lines : List Bytes) : Prop where
  whole : lines.flatten = data
  terminated : ∀ line ∈ lines.dropLast, Terminated delimiter line
  last : ∀ line ∈ lines.getLast?, Terminated delimiter line ∨ Unterminated delimiter line

variable {delimiter : Bytes}

theorem Terminated.ne_nil {line : Bytes} (some : delimiter ≠ []) (h : Terminated delimiter line) :
    line ≠ [] := by
  rintro rfl
  exact some (List.suffix_nil.1 h.1)

/-- Of two lines that begin alike, the shorter one is the longer one if it is terminated. -/
theorem Terminated.eq_of_append {line longer : Bytes} (h : Terminated delimiter line)
    (either : Terminated delimiter (line ++ longer) ∨ Unterminated delimiter (line ++ longer)) :
    longer = [] := by
  obtain ⟨before, rfl⟩ := h.1
  obtain terminated | unterminated := either
  · exact terminated.2 before longer rfl
  · exact absurd ⟨before, longer, rfl⟩ unterminated.2

namespace Splits

variable {data line : Bytes} {lines : List Bytes}

/-- The first line of a split is terminated, unless it is the last one. -/
theorem first (h : Splits delimiter data (line :: lines)) :
    Terminated delimiter line ∨ Unterminated delimiter line ∧ lines = [] := by
  cases lines with
  | nil => exact (h.last line rfl).imp id fun unterminated => ⟨unterminated, rfl⟩
  | cons next lines => exact .inl (h.terminated line List.mem_cons_self)

theorem tail (h : Splits delimiter data (line :: lines)) : Splits delimiter lines.flatten lines := by
  refine ⟨rfl, fun l hl => h.terminated l ?_, fun l hl => h.last l ?_⟩
  · cases lines with
    | nil => cases hl
    | cons next lines => exact List.mem_cons_of_mem _ hl
  · cases lines with
    | nil => cases hl
    | cons next lines => rwa [List.getLast?_cons_cons]

theorem ne_nil (some : delimiter ≠ []) (h : Splits delimiter data lines) (hl : line ∈ lines) :
    line ≠ [] := by
  induction lines generalizing data with
  | nil => cases hl
  | cons first lines ih =>
    obtain rfl | hl := List.mem_cons.1 hl
    · exact h.first.elim (·.ne_nil some) (·.1.1)
    · exact ih h.tail hl

/-- The first lines of two splits are the same if one of them begins the other. -/
theorem first_eq {longer : Bytes} {others : List Bytes} (h : Splits delimiter data (line :: lines))
    (h' : Splits delimiter data ((line ++ longer) :: others)) : longer = [] := by
  obtain terminated | ⟨-, rfl⟩ := h.first
  · exact terminated.eq_of_append (h'.first.imp id And.left)
  · -- an unterminated line is all that there is
    have whole := h'.whole.trans h.whole.symm
    simp only [List.flatten_cons, List.flatten_nil, List.append_nil, List.append_assoc,
      List.append_right_eq_self, List.append_eq_nil_iff] at whole
    exact whole.1

/-- Bytes have one split. -/
theorem unique (some : delimiter ≠ []) {others : List Bytes} (h : Splits delimiter data lines)
    (h' : Splits delimiter data others) : lines = others := by
  have empty {xs : List Bytes} (h : Splits delimiter [] xs) : xs = [] := by
    rw [List.eq_nil_iff_forall_not_mem]
    exact fun line hl => h.ne_nil some hl (List.flatten_eq_nil_iff.1 h.whole line hl)
  induction lines generalizing data others with
  | nil =>
    obtain rfl : [] = data := h.whole
    exact (empty h').symm
  | cons line lines ih =>
    cases others with
    | nil =>
      obtain rfl : [] = data := h'.whole
      exact empty h
    | cons other others =>
      have same : line = other := by
        have whole : line ++ lines.flatten = other ++ others.flatten := h.whole.trans h'.whole.symm
        obtain ⟨longer, rfl, -⟩ | ⟨longer, rfl, -⟩ := List.append_eq_append_iff.1 whole
        · rw [h.first_eq h', List.append_nil]
        · rw [h'.first_eq h, List.append_nil]
      obtain rfl := same
      have rest : lines.flatten = others.flatten :=
        List.append_cancel_left (h.whole.trans h'.whole.symm)
      rw [ih h.tail (rest ▸ h'.tail)]

end Splits

/-! ### The invariant of a reader -/

/-- What holds between two blocks: no delimiter stands in the line that is begun. -/
structure Reads (delimiter : Bytes) (l : Lines) : Prop where
  terminated : ∀ line ∈ l.complete, Terminated delimiter line
  clear : ¬ delimiter <:+: l.begun.reverse

/-- What holds during a search, with bytes ahead: no delimiter begins in the line that is
begun. -/
structure Searches (delimiter : Bytes) (l : Lines) (ahead : Bytes) : Prop where
  terminated : ∀ line ∈ l.complete, Terminated delimiter line
  clear : ∀ before rest, l.begun.reverse = before ++ rest → delimiter <+: rest ++ ahead → rest = []

variable {l : Lines}

/-- A delimiter that begins in the bytes passed over would stand in the line that was
begun: as many bytes as it has after its first one are searched again. -/
theorem Reads.searches {d : UInt8} {ds : Bytes} (h : Reads (d :: ds) l) (block : Bytes) :
    Searches (d :: ds) { l with begun := l.begun.drop ds.length }
      ((l.begun.take ds.length).reverse ++ block) := by
  refine ⟨h.terminated, fun before rest passed begins => ?_⟩
  by_contra some
  have held : l.begun.reverse = before ++ (rest ++ (l.begun.take ds.length).reverse) := by
    rw [← List.append_assoc, ← passed, ← List.reverse_append, List.take_append_drop]
  have enough : ds.length ≤ l.begun.length := by
    by_contra short
    have none : l.begun.drop ds.length = [] := List.drop_eq_nil_of_le (by omega)
    simp only [none, List.reverse_nil, List.nil_eq, List.append_eq_nil_iff] at passed
    exact some passed.2
  have fits : (d :: ds).length ≤ (rest ++ (l.begun.take ds.length).reverse).length := by
    have := List.length_pos_of_ne_nil some
    simp only [List.length_cons, List.length_append, List.length_reverse, List.length_take]
    omega
  rw [← List.append_assoc] at begins
  have stands := List.prefix_of_prefix_length_le begins (List.prefix_append _ block) fits
  exact h.clear (held ▸ stands.isInfix.trans (List.suffix_append _ _).isInfix)

/-- The line that a delimiter ends is terminated by it. -/
theorem Searches.line {rest : Bytes} (h : Searches delimiter l (delimiter ++ rest)) :
    Searches delimiter ⟨(l.begun.reverse ++ delimiter) :: l.complete, []⟩ rest := by
  refine ⟨List.forall_mem_cons.2 ⟨⟨List.suffix_append _ _, fun before behind e => ?_⟩, h.terminated⟩, ?_⟩
  · rw [List.append_assoc] at e
    obtain ⟨more, -, e⟩ | ⟨more, begun, e⟩ := List.append_eq_append_iff.1 e
    · have size := congrArg List.length e
      simp only [List.length_append] at size
      exact List.eq_nil_of_length_eq_zero (by omega)
    · -- an earlier place would begin in the line that was begun
      have begins : delimiter <+: more ++ (delimiter ++ rest) := by
        rw [← List.append_assoc, ← e, List.append_assoc]
        exact List.prefix_append _ _
      obtain rfl := h.clear before more begun begins
      exact List.append_right_eq_self.1 e
  · intro before rest' e _
    exact (List.append_eq_nil_iff.1 e.symm).2

theorem Searches.byte {b : UInt8} {rest : Bytes} (h : Searches delimiter l (b :: rest))
    (other : ¬ delimiter <+: b :: rest) :
    Searches delimiter { l with begun := b :: l.begun } rest := by
  refine ⟨h.terminated, fun before passed e begins => ?_⟩
  induction passed using List.reverseRecOn with
  | nil => rfl
  | append_singleton passed b' _ =>
    rw [List.reverse_cons, ← List.append_assoc] at e
    obtain ⟨begun, e⟩ := List.append_inj' e rfl
    obtain rfl := List.singleton_inj.1 e
    rw [List.append_assoc] at begins
    obtain rfl := h.clear before passed begun begins
    exact absurd begins other

theorem Searches.reads (some : delimiter ≠ []) (h : Searches delimiter l []) : Reads delimiter l := by
  refine ⟨h.terminated, ?_⟩
  rintro ⟨before, behind, e⟩
  rw [List.append_assoc] at e
  have none := h.clear before (delimiter ++ behind) e.symm
    (by rw [List.append_nil]; exact List.prefix_append _ _)
  exact some (List.append_eq_nil_iff.1 none).1

theorem Reads.read (some : delimiter ≠ []) (h : Reads delimiter l) (block : Bytes) :
    Reads delimiter (l.read delimiter block) := by
  cases delimiter with
  | nil => exact absurd rfl some
  | cons d ds =>
    exact (scan_induction d ds (P := Searches (d :: ds)) (h.searches block)
      (fun _ _ h' => h'.line) fun _ _ _ other h' => h'.byte other).reads some

theorem Reads.foldl (some : delimiter ≠ []) (h : Reads delimiter l) (blocks : List Bytes) :
    Reads delimiter (blocks.foldl (Lines.read delimiter) l) := by
  induction blocks generalizing l with
  | nil => exact h
  | cons block blocks ih => exact ih (h.read some block)

/-! ### The lines of a file -/

theorem Reads.finish (h : Reads delimiter l) : Splits delimiter l.bytes l.finish := by
  have complete : ∀ line ∈ l.complete.reverse, Terminated delimiter line :=
    fun line hl => h.terminated line (List.mem_reverse.1 hl)
  by_cases begun : l.begun = []
  · have lines : l.finish = l.complete.reverse := by simp [Lines.finish, begun]
    refine ⟨flatten_finish l, fun line hl => ?_, fun line hl => .inl ?_⟩
    · rw [lines] at hl
      exact complete line (List.dropLast_subset _ hl)
    · rw [lines] at hl
      exact complete line (List.mem_of_getLast? hl)
  · have lines : l.finish = l.complete.reverse ++ [l.begun.reverse] := by
      simp [Lines.finish, begun]
    refine ⟨flatten_finish l, fun line hl => ?_, fun line hl => .inr ?_⟩
    · rw [lines, List.dropLast_concat] at hl
      exact complete line hl
    · rw [lines, List.getLast?_concat] at hl
      obtain rfl := Option.some.inj hl
      exact ⟨by simpa using begun, h.clear⟩

/-- The lines of a file are those of its bytes, in whatever blocks these are read. -/
theorem splits_ofBlocks (some : delimiter ≠ []) (blocks : List Bytes) :
    Splits delimiter blocks.flatten (ofBlocks delimiter blocks) := by
  have empty : Reads delimiter {} := ⟨by simp, fun h => some (List.infix_nil.1 h)⟩
  have splits := (empty.foldl some blocks).finish
  rwa [bytes_foldl] at splits

theorem flatten_inBlocks {size : Nat} (some : 0 < size) (data : Bytes) :
    (inBlocks size data).flatten = data := by
  fun_induction inBlocks size data with
  | case1 => cases some
  | case2 => rfl
  | case3 more b bs ih => simp [ih some]

/-- Blocks of one size or another give the same lines. -/
theorem ofBlocks_inBlocks (some : delimiter ≠ []) {size : Nat} (positive : 0 < size)
    (blocks : List Bytes) :
    ofBlocks delimiter (inBlocks size blocks.flatten) = ofBlocks delimiter blocks := by
  have resized := splits_ofBlocks some (inBlocks size blocks.flatten)
  rw [flatten_inBlocks positive] at resized
  exact resized.unique some (splits_ofBlocks some blocks)

/-- The lines of a file are the one split of its bytes, and so the same as if all bytes were
read at once; there are no more of them than bytes. -/
theorem ofBlocks_splits_once (some : delimiter ≠ []) (blocks : List Bytes) :
    (∀ lines, ofBlocks delimiter blocks = lines ↔ Splits delimiter blocks.flatten lines) ∧
      ofBlocks delimiter blocks = ofBlocks delimiter [blocks.flatten] ∧
      (ofBlocks delimiter blocks).length ≤ blocks.flatten.length := by
  have splits := splits_ofBlocks some blocks
  refine ⟨fun lines => ⟨fun e => e ▸ splits, splits.unique some⟩, ?_, ?_⟩
  · have once := splits_ofBlocks some [blocks.flatten]
    rw [List.flatten_singleton] at once
    exact splits.unique some once
  · have solid : ∀ n ∈ (ofBlocks delimiter blocks).map List.length, 1 ≤ n := by
      intro n hn
      obtain ⟨line, hl, rfl⟩ := List.mem_map.1 hn
      exact List.length_pos_of_ne_nil (splits.ne_nil some hl)
    calc (ofBlocks delimiter blocks).length
        = ((ofBlocks delimiter blocks).map List.length).length := (List.length_map _).symm
      _ ≤ ((ofBlocks delimiter blocks).map List.length).sum := List.length_le_sum_of_one_le _ solid
      _ = blocks.flatten.length := by rw [← List.length_flatten, splits.whole]

/-- A delimiter that overlaps itself, in blocks that break it off: `ababaxaba` has the lines
`aba` and `baxaba`. -/
theorem overlapping_splits_once :
    ([97, 98, 97] : Bytes) ≠ [] ∧
      Splits [97, 98, 97] [97, 98, 97, 98, 97, 120, 97, 98, 97]
        [[97, 98, 97], [98, 97, 120, 97, 98, 97]] :=
  ⟨by decide,
    ((ofBlocks_splits_once (by decide) [[97], [98], [97, 98], [97, 120, 97], [98, 97]]).1 _).1
      (by decide)⟩

end ExaWire.Import.Lines
