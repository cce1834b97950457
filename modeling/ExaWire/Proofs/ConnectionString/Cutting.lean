/-
ExaWire/Proofs/ConnectionString/Cutting.lean

Where the parameters of a connection string are cut.

A semicolon separates unless a backslash stands right in front of it.  `IsCut` says so of a
text and its parts, and not how the parts are found.  Every text has such parts and only one
list of them (`exists_isCut`, `IsCut.unique`).

`split` works with a character that holds the place of the escaped semicolons.  That
character makes no difference to where the text is cut, but wherever it stood in the text
before, an escaped semicolon comes out (`IsCut.split_eq`).
-/
import ExaWire.Proofs.ConnectionString.Items

namespace ExaWire.ConnectionString

open Text

/-! ### Covered semicolons -/

/-- Every semicolon of the text has a backslash right in front of it. -/
def Covered (text : List Char) : Prop :=
  ∀ before rest, text = before ++ ';' :: rest → before.getLast? = some '\\'

theorem covered_of_notMem {text : List Char} (h : ';' ∉ text) : Covered text := by
  intro before rest e
  exact absurd (e ▸ List.mem_append_right before List.mem_cons_self) h

theorem Covered.append {xs ys : List Char} (hx : Covered xs) (hy : Covered ys) :
    Covered (xs ++ ys) := by
  intro before rest e
  rcases List.append_eq_append_iff.1 e with ⟨front, rfl, tail⟩ | ⟨back, rfl, tail⟩
  · -- the semicolon stands in the second text, so what is in front of it is not empty
    have last := hy front rest tail
    cases front with
    | nil => cases last
    | cons c cs => rw [List.getLast?_append, last, Option.some_or]
  · cases back with
    | nil =>
      have last := hy [] rest tail.symm
      cases last
    | cons c cs =>
      obtain ⟨rfl, rfl⟩ := List.cons.inj tail
      exact hx before cs rfl

/-- Behind a backslash, a semicolon is covered. -/
theorem Covered.append_semicolon {xs : List Char} (hx : Covered xs)
    (ending : xs.getLast? = some '\\') : Covered (xs ++ [';']) := by
  intro before rest e
  rcases List.append_eq_append_iff.1 e with ⟨front, rfl, tail⟩ | ⟨back, rfl, tail⟩
  · cases front with
    | nil => rwa [List.append_nil]
    | cons c cs =>
      have short := congrArg List.length tail
      simp at short
  · cases back with
    | nil => rwa [List.append_nil] at ending
    | cons c cs =>
      obtain ⟨rfl, rfl⟩ := List.cons.inj tail
      exact hx before cs rfl

/-- What is left of a covered text behind its first character is covered, unless that
character covers what follows. -/
theorem Covered.tail {x : Char} {xs : List Char} (h : Covered (x :: xs))
    (apart : x ≠ '\\' ∨ xs.head? ≠ some ';') : Covered xs := by
  rintro before rest rfl
  have last := h (x :: before) rest rfl
  cases before with
  | nil => simp_all
  | cons c cs => rwa [List.getLast?_cons_cons] at last

/-- Guarding leaves no semicolon of a covered text. -/
theorem Covered.notMem_guard {text : List Char} (h : Covered text) : ';' ∉ guard text := by
  unfold guard
  fun_induction replacePair '\\' ';' [placeholder] text with
  | case1 => exact List.not_mem_nil
  | case2 x =>
    intro mem
    obtain rfl := List.mem_singleton.1 mem
    cases h [] [] rfl
  | case3 x y rest pair ih =>
    obtain ⟨rfl, rfl⟩ := pair
    have behind : Covered rest := by
      rintro before more rfl
      have last := h ('\\' :: ';' :: before) more rfl
      cases before with
      | nil => simp at last
      | cons c cs => rwa [List.getLast?_cons_cons, List.getLast?_cons_cons] at last
    simpa [placeholder] using ih behind
  | case4 x y rest apart ih =>
    have bare : x ≠ ';' := by
      rintro rfl
      cases h [] _ rfl
    have behind : Covered (y :: rest) := h.tail (by
      rw [List.head?_cons, ne_eq, ne_eq, Option.some.injEq]
      exact Decidable.not_and_iff_or_not.1 apart)
    rw [List.mem_cons, not_or]
    exact ⟨bare.symm, ih behind⟩

/-- Guarding passes through a semicolon that is not covered. -/
theorem guard_append_semicolon {part : List Char} (h : part.getLast? ≠ some '\\') (rest : List Char) :
    guard (part ++ ';' :: rest) = guard part ++ ';' :: guard rest := by
  rw [guard, replacePair_append h, replacePair_cons (.inl (by decide))]
  rfl

theorem notMem_guard_iff {text : List Char} : ';' ∉ guard text ↔ Covered text := by
  refine ⟨fun h before rest e => ?_, Covered.notMem_guard⟩
  by_cases covered : before.getLast? = some '\\'
  · exact covered
  · rw [e, guard_append_semicolon covered] at h
    exact absurd (List.mem_append_right _ List.mem_cons_self) h

instance (text : List Char) : Decidable (Covered text) :=
  decidable_of_iff (';' ∉ guard text) notMem_guard_iff

/-- A text comes back from its guarded form with an escaped semicolon wherever the placeholder
stood, be it its own. -/
theorem restore_guard (text : List Char) :
    replaceOne placeholder ['\\', ';'] (guard text) = replaceOne placeholder ['\\', ';'] text := by
  unfold guard
  fun_induction replacePair '\\' ';' [placeholder] text with
  | case1 => rfl
  | case2 x => rfl
  | case3 x y rest pair ih =>
    obtain ⟨rfl, rfl⟩ := pair
    rw [List.singleton_append, replaceOne_cons_self, ih, replaceOne_cons_of_ne (by decide),
      replaceOne_cons_of_ne (by decide)]
    rfl
  | case4 x y rest apart ih =>
    by_cases own : x = placeholder
    · rw [own, replaceOne_cons_self, replaceOne_cons_self, ih]
    · rw [replaceOne_cons_of_ne own, replaceOne_cons_of_ne own, ih]

theorem guard_eq_nil_iff {text : List Char} : guard text = [] ↔ text = [] := by
  unfold guard
  fun_cases replacePair '\\' ';' [placeholder] text <;> simp

/-! ### Cutting -/

/-- The parts of a text between the semicolons that have no backslash in front. -/
inductive IsCut : List (List Char) → List Char → Prop
  | last {part : List Char} : Covered part → IsCut [part] part
  | cons {part rest : List Char} {parts : List (List Char)} :
      Covered part → part.getLast? ≠ some '\\' → IsCut parts rest →
      IsCut (part :: parts) (part ++ ';' :: rest)

namespace IsCut

variable {text part : List Char} {parts : List (List Char)}

/-- A part that ends in a backslash takes the separator and the next part in. -/
theorem extend {first : List Char} (hpart : Covered part) (ending : part.getLast? = some '\\')
    (h : IsCut (first :: parts) text) :
    IsCut ((part ++ ';' :: first) :: parts) (part ++ ';' :: text) := by
  have joined {front : List Char} (hfront : Covered front) : Covered (part ++ ';' :: front) := by
    have whole := (hpart.append_semicolon ending).append hfront
    rwa [List.append_assoc, List.singleton_append] at whole
  cases h with
  | last hfirst => exact .last (joined hfirst)
  | cons hfirst open' rest =>
    rw [← List.cons_append, ← List.append_assoc]
    refine .cons (joined hfirst) ?_ rest
    intro last
    rw [List.getLast?_append, List.getLast?_cons] at last
    cases e : first.getLast? with
    | none => simp [e] at last
    | some c =>
      rw [e] at open' last
      exact open' last

/-- No two lists of parts belong to one text. -/
theorem unique {others : List (List Char)} (h : IsCut parts text) (h' : IsCut others text) :
    parts = others := by
  -- a part that goes on where another one was cut has a bare semicolon
  have longer {p q rest : List Char} (hq : Covered q) (hp : p.getLast? ≠ some '\\')
      (e : q = p ++ ';' :: rest) : False := hp (hq _ _ e)
  induction h generalizing others with
  | last hpart =>
    cases h' with
    | last => rfl
    | cons _ open' _ => exact (longer hpart open' rfl).elim
  | @cons part rest parts hpart hopen hrest ih =>
    generalize whole : part ++ ';' :: rest = text at h'
    cases h' with
    | last hother => exact (longer hother hopen whole.symm).elim
    | @cons other rest' others hother hopen' hrest' =>
      rcases List.append_eq_append_iff.1 whole with ⟨more, e, tail⟩ | ⟨more, e, tail⟩
      · cases more with
        | nil =>
          obtain ⟨-, rfl⟩ := List.cons.inj tail
          rw [e, List.append_nil, ih hrest']
        | cons c cs =>
          obtain ⟨rfl, -⟩ := List.cons.inj tail
          exact (longer hother hopen e).elim
      · cases more with
        | nil =>
          obtain ⟨-, rfl⟩ := List.cons.inj tail
          rw [e, List.append_nil, ih hrest']
        | cons c cs =>
          obtain ⟨rfl, -⟩ := List.cons.inj tail
          exact (longer hpart hopen' e).elim

/-- A part has no character that the text has not. -/
theorem notMem {c : Char} (h : IsCut parts text) (absent : c ∉ text) : ∀ part ∈ parts, c ∉ part := by
  induction h with
  | last => simpa using absent
  | cons _ _ _ ih =>
    simp only [List.mem_append, List.mem_cons, not_or] at absent
    exact List.forall_mem_cons.2 ⟨absent.1, ih absent.2.2⟩

/-- The guarded text is cut at all its semicolons, and into the guarded parts. -/
theorem splitOn_guard (h : IsCut parts text) : splitOn ';' (guard text) = parts.map guard := by
  induction h with
  | last hpart => exact splitOn_of_notMem hpart.notMem_guard
  | @cons part rest parts hpart hopen _ ih =>
    rw [guard_append_semicolon hopen, splitOn_append hpart.notMem_guard, ih, List.map_cons]

/-- Splitting gives the parts that are not empty. -/
theorem split_eq (h : IsCut parts text) :
    split text = (parts.filter (· ≠ [])).map (replaceOne placeholder ['\\', ';']) := by
  have given : ∀ part ∈ parts, decide (guard part ≠ []) = decide (part ≠ []) := fun part _ =>
    decide_eq_decide.2 (not_congr guard_eq_nil_iff)
  show ((splitOn ';' (guard text)).filter _).map _ = _
  rw [h.splitOn_guard, List.filter_map, List.map_map]
  show (parts.filter fun part => decide (guard part ≠ [])).map _ = _
  rw [List.filter_congr given]
  exact List.map_congr_left fun part _ => restore_guard part

end IsCut

/-- Every text has parts. -/
theorem exists_isCut (text : List Char) : ∃ parts, IsCut parts text := by
  have ends : ∀ text, ∃ first parts, IsCut (first :: parts) text := by
    intro text
    induction h : text.length using Nat.strongRecOn generalizing text with
    | ind n ih =>
      by_cases semicolon : ';' ∈ text
      · -- cut at the first semicolon, and join again if it is covered
        obtain ⟨part, rest, rfl, bare⟩ := List.eq_append_cons_of_mem semicolon
        have shorter : rest.length < n := by
          rw [← h, List.length_append, List.length_cons]
          omega
        obtain ⟨first, parts, cut⟩ := ih _ shorter rest rfl
        have hpart := covered_of_notMem bare
        by_cases ending : part.getLast? = some '\\'
        · exact ⟨_, _, .extend hpart ending cut⟩
        · exact ⟨_, _, .cons hpart ending cut⟩
      · exact ⟨_, _, .last (covered_of_notMem semicolon)⟩
  obtain ⟨first, parts, cut⟩ := ends text
  exact ⟨_, cut⟩

end ExaWire.ConnectionString
