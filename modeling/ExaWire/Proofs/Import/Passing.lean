/-
ExaWire/Proofs/Import/Passing.lean

How the searches of an import pass over a text.

A text is passed over if no clause begins in it, with regard to what follows.  Whatever a
search does then, it does it to what follows: it collects, replaces and finds the same
clauses as without the text.  What is passed over is put together from pieces, each with
its own reason.
-/
import ExaWire.Import.Redirect
import ExaWire.Proofs.Import.Clause
import ExaWire.Proofs.Text.Cut

namespace ExaWire.Import

open Text

/-! ### Passing over a text -/

section Passing

variable {α : Type} {read : List Char → Option α} {xs ys zs : List Char}

/-- No clause begins in a text, with another text behind it. -/
def Passes (read : List Char → Option α) (xs ys : List Char) : Prop :=
  ∀ rest, rest <:+ xs → rest ≠ [] → read (rest ++ ys) = none

namespace Passes

theorem nil : Passes read [] ys := fun _ suffix some => absurd (List.suffix_nil.1 suffix) some

theorem cons_iff {c : Char} :
    Passes read (c :: xs) ys ↔ read (c :: (xs ++ ys)) = none ∧ Passes read xs ys := by
  constructor
  · exact fun h => ⟨h _ List.suffix_rfl (List.cons_ne_nil _ _),
      fun rest suffix => h rest (suffix.trans (List.suffix_cons c xs))⟩
  · rintro ⟨head, tail⟩ rest suffix some
    obtain rfl | suffix := List.suffix_cons_iff.1 suffix
    · exact head
    · exact tail rest suffix some

theorem append_iff : Passes read (xs ++ ys) zs ↔ Passes read xs (ys ++ zs) ∧ Passes read ys zs := by
  induction xs with
  | nil => exact ⟨fun h => ⟨nil, h⟩, And.right⟩
  | cons c xs ih => rw [List.cons_append, cons_iff, cons_iff, ih, List.append_assoc, and_assoc]

/-- A text is passed over if none of its characters begins a clause. -/
theorem of_head (h : ∀ c ∈ xs, ∀ cs, read (c :: cs) = none) : Passes read xs ys := by
  intro rest suffix some
  cases rest with
  | nil => exact absurd rfl some
  | cons c rest => exact h c (suffix.subset List.mem_cons_self) _

end Passes

/-- A recogniser succeeds somewhere in a text if it succeeds on an end of it. -/
theorem occurs_iff {cs : List Char} :
    occurs read cs = true ↔ ∃ rest, rest <:+ cs ∧ (read rest).isSome = true := by
  induction cs with
  | nil => simp [occurs]
  | cons c cs ih =>
    simp only [occurs, Bool.or_eq_true, ih, List.suffix_cons_iff]
    constructor
    · rintro (here | ⟨rest, suffix, there⟩)
      · exact ⟨_, .inl rfl, here⟩
      · exact ⟨rest, .inr suffix, there⟩
    · rintro ⟨rest, rfl | suffix, there⟩
      · exact .inl there
      · exact .inr ⟨rest, suffix, there⟩

theorem Passes.of_occurs (h : occurs read xs = false) : Passes read xs [] := by
  intro rest suffix _
  rw [List.append_nil, ← Option.not_isSome_iff_eq_none]
  exact fun there => by simp [occurs_iff.2 ⟨rest, suffix, there⟩] at h

theorem Passes.occurs_append (h : Passes read xs ys) : occurs read (xs ++ ys) = occurs read ys := by
  induction xs with
  | nil => rfl
  | cons c xs ih =>
    obtain ⟨head, tail⟩ := Passes.cons_iff.1 h
    rw [List.cons_append, occurs, head, ih tail, Option.isSome_none, Bool.false_or]

end Passing

/-- No file clause begins before the key word of another one. -/
theorem passes_keyword {xs keyword : List Char} (unquoted : ∀ c ∈ xs, isQuote c = false)
    (hk : IsKeyword keyword) {q : Char} (hq : isQuote q = true) (rest : List Char) :
    Passes file? xs (keyword ++ q :: rest) := by
  intro before suffix some
  have plain : ∀ c ∈ before ++ keyword, isQuote c = false :=
    List.forall_mem_append.2 ⟨fun c hc => unquoted c (suffix.subset hc), hk.not_isQuote⟩
  rw [← List.append_assoc]
  exact file?_of_not_isKeyword plain (fun isKeyword => some (isKeyword.of_append hk)) hq rest

/-! ### What the searches do -/

section Scanning

variable {α : Type} {read : List Char → Option (α × List Char)} {xs ys : List Char}

theorem scan_skip (n : Nat) (cs : List Char) : scan read n cs = scan read 0 (cs.drop n) := by
  induction cs generalizing n with
  | nil => simp [scan]
  | cons c cs ih =>
    cases n with
    | zero => rfl
    | succ n => rw [scan, ih, List.drop_succ_cons]

theorem Passes.scan_append (h : Passes read xs ys) : scan read 0 (xs ++ ys) = scan read 0 ys := by
  induction xs with
  | nil => rfl
  | cons c xs ih =>
    obtain ⟨head, tail⟩ := Passes.cons_iff.1 h
    rw [List.cons_append, scan, head]
    exact ih tail

/-- A clause is found where it begins, and the search goes on behind it. -/
theorem scan_append {value : α} (some : xs ≠ []) (h : read (xs ++ ys) = .some (value, ys)) :
    scan read 0 (xs ++ ys) = ⟨xs, value⟩ :: scan read 0 ys := by
  cases xs with
  | nil => exact absurd rfl some
  | cons c xs =>
    have size : (xs ++ ys).length + 1 - ys.length = xs.length + 1 := by
      rw [List.length_append]
      omega
    rw [List.cons_append] at h ⊢
    rw [scan, h]
    simp only [size]
    rw [scan_skip, Nat.add_sub_cancel, List.drop_left, List.take_succ_cons, List.take_left]

/-- What is found was recognised somewhere. -/
theorem read_of_mem_scan {found : Found α} {n : Nat} {cs : List Char} (h : found ∈ scan read n cs) :
    ∃ from' rest, read from' = some (found.value, rest) := by
  fun_induction scan read n cs with
  | case1 => cases h
  | case2 skip c cs ih => exact ih h
  | case3 c cs value rest e size ih =>
    obtain rfl | h := List.mem_cons.1 h
    · exact ⟨_, _, e⟩
    · exact ih h
  | case4 c cs none ih => exact ih h

end Scanning

section Replacing

variable {read : List Char → Option (List Char)} {pieces : List Piece} {xs ys : List Char}

theorem substitute_skip (n : Nat) (cs : List Char) :
    substitute read pieces n cs = substitute read pieces 0 (cs.drop n) := by
  induction cs generalizing n with
  | nil => simp [substitute]
  | cons c cs ih =>
    cases n with
    | zero => rfl
    | succ n => rw [substitute, ih, List.drop_succ_cons]

theorem Passes.substitute_append (h : Passes read xs ys) :
    substitute read pieces 0 (xs ++ ys) = xs ++ substitute read pieces 0 ys := by
  induction xs with
  | nil => rfl
  | cons c xs ih =>
    obtain ⟨head, tail⟩ := Passes.cons_iff.1 h
    rw [List.cons_append, substitute, head]
    exact congrArg (c :: ·) (ih tail)

/-- A clause is replaced where it begins, and the replacing goes on behind it. -/
theorem substitute_append (some : xs ≠ []) (h : read (xs ++ ys) = .some ys) :
    substitute read pieces 0 (xs ++ ys) =
      pieces.flatMap (Piece.render xs) ++ substitute read pieces 0 ys := by
  cases xs with
  | nil => exact absurd rfl some
  | cons c xs =>
    have size : (xs ++ ys).length + 1 - ys.length = xs.length + 1 := by
      rw [List.length_append]
      omega
    rw [List.cons_append] at h ⊢
    rw [substitute, h]
    simp only [size]
    rw [substitute_skip, Nat.add_sub_cancel, List.drop_left, List.take_succ_cons, List.take_left]

/-- The first place of a text is looked for behind what is passed over. -/
theorem Passes.replaceFirst_append {old new : List Char} (h : Passes (after? old) xs ys) :
    replaceFirst old new (xs ++ ys) = xs ++ replaceFirst old new ys := by
  have cut : cut? old (xs ++ ys) = (cut? old ys).map fun parts => (xs ++ parts.1, parts.2) := by
    induction xs with
    | nil => simp
    | cons c xs ih =>
      obtain ⟨head, tail⟩ := Passes.cons_iff.1 h
      rw [List.cons_append, cut?, head]
      simp only [ih tail, Option.map_map]
      rfl
  rw [replaceFirst, replaceFirst, cut]
  cases cut? old ys with
  | none => rfl
  | some parts => simp

/-- A replacement text without a backslash stands for itself. -/
theorem template_of_notMem {cs : List Char} (plain : '\\' ∉ cs) :
    template cs = .ok (cs.map Piece.char) := by
  unfold template
  induction cs with
  | nil => rfl
  | cons c cs ih =>
    obtain ⟨hc, hcs⟩ := not_or.1 (mt List.mem_cons.2 plain)
    rw [List.length_cons, readTemplate, ih hcs]
    · rfl
    · exact fun e => hc e.symm

theorem flatMap_render_char (whole cs : List Char) :
    (cs.map Piece.char).flatMap (Piece.render whole) = cs := by
  induction cs with
  | nil => rfl
  | cons c cs ih => exact congrArg (c :: ·) ih

end Replacing

/-! ### Imports -/

/-- The import that a statement asks for, by the clauses found in it. -/
theorem Job.ofStatement_eq (sql : List Char) : Job.ofStatement (String.ofList sql) =
    if (files sql).isEmpty then .error (.of .importQuery "could not parse import query")
    else .ok {
      sql
      paths := (files sql).map fun f => String.ofList f.value
      separator := rowSeparator sql } := by
  rw [Job.ofStatement, String.toList_ofList]
  cases files sql <;> rfl

/-- A property that some line begins with holds from some place on. -/
theorem exists_of_atSomeLine {p : List Char → Bool} {cs : List Char} (h : atSomeLine p cs = true) :
    ∃ line, line <:+ cs ∧ p line = true := by
  induction cs with
  | nil => cases h
  | cons c cs ih =>
    simp only [atSomeLine, Bool.or_eq_true, Bool.and_eq_true] at h
    obtain ⟨-, here⟩ | further := h
    · exact ⟨cs, List.suffix_cons c cs, here⟩
    · obtain ⟨line, suffix, starts⟩ := ih further
      exact ⟨line, suffix.trans (List.suffix_cons c cs), starts⟩

/-- The source of an import ends in a marker. -/
theorem exists_of_fromLocalCsv? {cs : List Char} (h : (fromLocalCsv? cs).isSome = true) :
    ∃ marked, marked <:+ cs ∧ (localCsv? marked).isSome = true := by
  obtain ⟨rest, h⟩ := Option.isSome_iff_exists.1 h
  simp only [fromLocalCsv?, Option.bind_eq_bind, Option.bind_eq_some_iff, word?_eq_some_iff,
    blanks?_eq_some_iff] at h
  obtain ⟨marked, ⟨_, ⟨u, -, rfl⟩, ⟨gap, -, rfl⟩, -⟩, marker⟩ := h
  exact ⟨marked, ⟨u ++ gap, List.append_assoc _ _ _⟩, by rw [marker, Option.isSome_some]⟩

/-- An import has a marker. -/
theorem occurs_of_isImport {sql : List Char} (h : isImport sql = true) :
    occurs localCsv? sql = true := by
  obtain ⟨line, line_suffix, starts⟩ : ∃ line, line <:+ sql ∧ startsImport line = true := by
    rw [isImport, Bool.or_eq_true] at h
    obtain first | further := h
    · exact ⟨sql, List.suffix_rfl, first⟩
    · exact exists_of_atSomeLine further
  unfold startsImport at starts
  split at starts
  · next c d rest e =>
    obtain ⟨u, -, behind⟩ := word?_eq_some_iff.1 e
    obtain ⟨source, source_suffix, from'⟩ := occurs_iff.1 (Bool.and_eq_true_iff.1 starts).2
    obtain ⟨marked, marked_suffix, marker⟩ := exists_of_fromLocalCsv? from'
    have word_suffix : c :: d :: rest <:+ line :=
      .trans ⟨u, behind.symm⟩ (List.dropWhile_suffix isBlank)
    have rest_suffix : rest <:+ line :=
      ((List.suffix_cons d rest).trans (List.suffix_cons c _)).trans word_suffix
    exact occurs_iff.2
      ⟨marked, marked_suffix.trans (source_suffix.trans (rest_suffix.trans line_suffix)), marker⟩
  · cases starts

end ExaWire.Import
