/-
ExaWire/Proofs/ConnectionString/Neighbours.lean

What a value does to its neighbours in a connection string.

Entries are written as items with a semicolon between them.  A value that ends in a backslash
covers the semicolon behind it, so its item and the next one are read as one; no other value
reaches beyond its item.  `runs` puts the entries together that are read as one item, and
`isCut_joinWith` says that the text is cut exactly between the runs.

So the items come back one by one if and only if no value but the last one ends in a
backslash, and none contains the character that stands in for an escaped semicolon while the
text is cut.
-/
import ExaWire.Proofs.ConnectionString.Cutting

namespace ExaWire.ConnectionString

open Text

/-- A key that stands for itself in an item. -/
structure Plain (key : String) : Prop where
  equals : '=' ∉ key.toList
  separator : ';' ∉ key.toList
  placeholder : placeholder ∉ key.toList

/-- The value of the entry covers the separator behind it. -/
def Swallows (e : String × String) : Prop := e.2.toList.getLast? = some '\\'

instance (e : String × String) : Decidable (Swallows e) := by
  unfold Swallows
  infer_instance

/-- Entries whose values leave one another alone, and come back as they were. -/
structure Kept (entries : List (String × String)) : Prop where
  placeholder : ∀ e ∈ entries, placeholder ∉ e.2.toList
  separator : ∀ e ∈ entries.dropLast, ¬ Swallows e

/-- Entries in runs: one follows another in the same run if the value in front covers the
separator between them. -/
def runs : List (String × String) → List (List (String × String))
  | [] => []
  | e :: entries =>
    match runs entries with
    | [] => [[e]]
    | run :: more => if Swallows e then (e :: run) :: more else [e] :: run :: more

/-- The text of some entries. -/
def textOf (entries : List (String × String)) : List Char := joinWith [';'] (itemsOf entries)

variable {e : String × String} {entries : List (String × String)}

/-! ### Runs -/

theorem runs_ne_nil (h : entries ≠ []) : runs entries ≠ [] := by
  cases entries with
  | nil => exact absurd rfl h
  | cons e entries =>
    rw [runs]
    split
    · exact List.cons_ne_nil _ _
    · split <;> exact List.cons_ne_nil _ _

theorem runs_cons_of_swallows {run : List (String × String)} {more : List (List (String × String))}
    (h : runs entries = run :: more) (swallows : Swallows e) :
    runs (e :: entries) = (e :: run) :: more := by
  rw [runs, h]
  exact if_pos swallows

theorem runs_cons_of_not_swallows (h : ¬ Swallows e) : runs (e :: entries) = [e] :: runs entries := by
  rw [runs]
  cases runs entries with
  | nil => rfl
  | cons run more => exact if_neg h

/-- No run is empty. -/
theorem ne_nil_of_mem_runs : ∀ run ∈ runs entries, run ≠ [] := by
  induction entries with
  | nil => exact List.forall_mem_nil _
  | cons e entries ih =>
    rw [runs]
    split
    · simp
    · next run more found =>
      rw [found] at ih
      obtain ⟨-, rest⟩ := List.forall_mem_cons.1 ih
      split
      · exact List.forall_mem_cons.2 ⟨List.cons_ne_nil _ _, rest⟩
      · exact List.forall_mem_cons.2 ⟨List.cons_ne_nil _ _, ih⟩

theorem length_runs_le : (runs entries).length ≤ entries.length := by
  induction entries with
  | nil => exact Nat.le_refl 0
  | cons e entries ih =>
    rw [runs]
    split
    · simp
    · next run more found =>
      rw [found] at ih
      split
      · exact Nat.le_succ_of_le ih
      · exact Nat.succ_le_succ ih

/-- Entries that leave the separators alone are runs of their own. -/
theorem runs_eq_map (h : ∀ e ∈ entries.dropLast, ¬ Swallows e) :
    runs entries = entries.map fun e => [e] := by
  induction entries with
  | nil => rfl
  | cons e entries ih =>
    cases entries with
    | nil => rfl
    | cons f entries =>
      rw [List.dropLast_cons_cons] at h
      obtain ⟨he, hentries⟩ := List.forall_mem_cons.1 h
      rw [runs_cons_of_not_swallows he, ih hentries, List.map_cons, List.map_cons, List.map_cons]

/-- There are as many runs as entries only if every separator is left alone. -/
theorem not_swallows_of_length_runs (h : (runs entries).length = entries.length) :
    ∀ e ∈ entries.dropLast, ¬ Swallows e := by
  induction entries with
  | nil => exact List.forall_mem_nil _
  | cons e entries ih =>
    cases entries with
    | nil => exact List.forall_mem_nil _
    | cons f entries =>
      rw [List.dropLast_cons_cons]
      by_cases swallows : Swallows e
      · -- the first run takes the next one in, so one is missing
        obtain ⟨run, more, found⟩ := List.exists_cons_of_ne_nil (runs_ne_nil (List.cons_ne_nil f entries))
        have bound : (runs (f :: entries)).length ≤ (f :: entries).length := length_runs_le
        rw [runs_cons_of_swallows found swallows] at h
        rw [found] at bound
        simp only [List.length_cons] at h bound
        omega
      · rw [runs_cons_of_not_swallows swallows] at h
        exact List.forall_mem_cons.2 ⟨swallows, ih (Nat.succ.inj h)⟩

/-! ### Items -/

theorem textOf_singleton (e : String × String) : textOf [e] = item e.1 e.2 := rfl

theorem textOf_cons (h : entries ≠ []) :
    textOf (e :: entries) = item e.1 e.2 ++ ';' :: textOf entries := by
  have more : itemsOf entries ≠ [] := by simpa [itemsOf] using h
  show joinWith [';'] (item e.1 e.2 :: itemsOf entries) = _
  rw [joinWith_cons _ _ more, List.append_assoc, List.singleton_append]
  rfl

theorem textOf_ne_nil (h : entries ≠ []) : textOf entries ≠ [] := by
  cases entries with
  | nil => exact absurd rfl h
  | cons e entries =>
    by_cases last : entries = []
    · rw [last, textOf_singleton]
      simp [item]
    · rw [textOf_cons last]
      simp [item]

theorem covered_escape (value : List Char) : Covered (escape value) := by
  unfold escape
  induction value with
  | nil => exact covered_of_notMem List.not_mem_nil
  | cons c value ih =>
    by_cases semicolon : c = ';'
    · have sign : Covered ['\\'] := covered_of_notMem (by decide)
      have pair : Covered ['\\', ';'] := sign.append_semicolon rfl
      rw [semicolon, replaceOne_cons_self]
      exact pair.append ih
    · have single : Covered [c] := covered_of_notMem (by simpa using Ne.symm semicolon)
      rw [replaceOne_cons_of_ne semicolon]
      exact single.append ih

theorem covered_item (h : Plain e.1) : Covered (item e.1 e.2) := by
  have front : Covered (e.1.toList ++ ['=']) := covered_of_notMem (by simp [h.separator])
  have whole := front.append (covered_escape e.2.toList)
  rwa [List.append_assoc, List.singleton_append] at whole

/-- The text of entries is cut between their runs. -/
theorem isCut_textOf (plain : ∀ e ∈ entries, Plain e.1) (some : entries ≠ []) :
    IsCut ((runs entries).map textOf) (textOf entries) := by
  induction entries with
  | nil => exact absurd rfl some
  | cons e entries ih =>
    obtain ⟨he, hentries⟩ := List.forall_mem_cons.1 plain
    have covered := covered_item he
    by_cases last : entries = []
    · rw [last]
      exact .last covered
    · have cut := ih hentries last
      rw [textOf_cons last]
      by_cases swallows : Swallows e
      · obtain ⟨run, more, found⟩ := List.exists_cons_of_ne_nil (runs_ne_nil last)
        have given : run ≠ [] := ne_nil_of_mem_runs run (found ▸ List.mem_cons_self)
        rw [found, List.map_cons] at cut
        rw [runs_cons_of_swallows found swallows, List.map_cons, textOf_cons given]
        exact .extend covered (getLast?_item_iff.2 swallows) cut
      · rw [runs_cons_of_not_swallows swallows, List.map_cons]
        exact .cons covered (mt getLast?_item_iff.1 swallows) cut

/-- What is read is one item for each run, with an escaped semicolon wherever a value has the
placeholder. -/
theorem split_textOf (plain : ∀ e ∈ entries, Plain e.1) :
    split (textOf entries) =
      (runs entries).map fun run => replaceOne placeholder ['\\', ';'] (textOf run) := by
  by_cases some : entries = []
  · rw [some]
    rfl
  · have given : ∀ part ∈ (runs entries).map textOf, decide (part ≠ []) = true := by
      simp only [List.forall_mem_map, decide_eq_true_eq]
      exact fun run hrun => textOf_ne_nil (ne_nil_of_mem_runs run hrun)
    rw [(isCut_textOf plain some).split_eq, List.filter_eq_self.2 given, List.map_map]
    rfl

/-! ### What is kept -/

theorem notMem_item {c : Char} (key : c ∉ e.1.toList) (value : c ∉ e.2.toList) (equals : c ≠ '=')
    (covers : c ≠ '\\') (semicolon : c ≠ ';') : c ∉ item e.1 e.2 := by
  have escaped : c ∉ escape e.2.toList := notMem_replaceOne (by simp [covers, semicolon]) (.inr value)
  simp [item, key, equals, escaped]

/-- Reading an item that went through cutting: its key is the key, and its value has no
placeholder. -/
theorem entry?_restored (h : Plain e.1) :
    ∃ value, entry? (replaceOne placeholder ['\\', ';'] (item e.1 e.2)) = some (e.1, value) ∧
      placeholder ∉ value.toList := by
  let raw := replaceOne placeholder ['\\', ';'] (escape e.2.toList)
  have whole : replaceOne placeholder ['\\', ';'] (item e.1 e.2) = e.1.toList ++ '=' :: raw := by
    rw [item, replaceOne_append, replaceOne_of_notMem h.placeholder, replaceOne_cons_of_ne (by decide)]
  have absent : placeholder ∉ raw := notMem_replaceOne (by decide) (.inl rfl)
  refine ⟨String.ofList (unescape raw), ?_, ?_⟩
  · rw [whole, entry?_append h.equals]
  · rw [String.toList_ofList]
    exact notMem_replacePair (by decide) absent

theorem entry?_item (h : Plain e.1) : entry? (item e.1 e.2) = some e := by
  rw [item, entry?_append h.equals, unescape_escape, String.ofList_toList]

/-- Entries that are kept are read back from their items. -/
theorem split_textOf_of_kept (plain : ∀ e ∈ entries, Plain e.1) (kept : Kept entries) :
    split (textOf entries) = itemsOf entries := by
  rw [split_textOf plain, runs_eq_map kept.separator, List.map_map]
  refine List.map_congr_left fun e he => ?_
  have absent : placeholder ∉ item e.1 e.2 :=
    notMem_item (plain e he).placeholder (kept.placeholder e he) (by decide) (by decide) (by decide)
  exact replaceOne_of_notMem absent

theorem Fits.plain {key value : String} (h : Fits key value) : Plain key :=
  ⟨h.equals, h.separator, h.keyPlaceholder⟩

/-- The items of entries that fit are found again when their join is split. -/
theorem split_joinWith (h : ∀ e ∈ entries, Fits e.1 e.2) :
    split (joinWith [';'] (itemsOf entries)) = itemsOf entries := by
  refine split_textOf_of_kept (fun e he => (h e he).plain) ⟨fun e he => ?_, fun e he => ?_⟩
  · exact (h e he).valuePlaceholder
  · exact (h e (List.dropLast_subset _ he)).ending

/-- Entries that are read back are kept. -/
theorem kept_of_entry? (plain : ∀ e ∈ entries, Plain e.1)
    (h : (split (textOf entries)).map entry? = entries.map some) : Kept entries := by
  have lengths := congrArg List.length h
  rw [split_textOf plain, List.length_map, List.length_map, List.length_map] at lengths
  have alone := not_swallows_of_length_runs lengths
  refine ⟨fun e he => ?_, alone⟩
  rw [split_textOf plain, runs_eq_map alone, List.map_map, List.map_map] at h
  have read := List.map_inj_left.1 h e he
  obtain ⟨value, found, absent⟩ := entry?_restored (plain e he)
  have same : value = e.2 := congrArg Prod.snd (Option.some.inj (found.symm.trans read))
  rwa [← same]

/-- Joined items are found again when the text is split, and read back as the entries that
they were made of, exactly if the entries are kept.  In any case the text falls apart into
the runs of the entries. -/
theorem entries_kept_iff (plain : ∀ e ∈ entries, Plain e.1) :
    (split (joinWith [';'] (itemsOf entries)) = itemsOf entries ↔ Kept entries) ∧
      ((split (joinWith [';'] (itemsOf entries))).map entry? = entries.map some ↔ Kept entries) ∧
      split (joinWith [';'] (itemsOf entries)) = (runs entries).map fun run =>
        replaceOne placeholder ['\\', ';'] (joinWith [';'] (itemsOf run)) := by
  have read : (itemsOf entries).map entry? = entries.map some := by
    rw [itemsOf, List.map_map]
    exact List.map_congr_left fun e he => entry?_item (plain e he)
  have kept_of_read := kept_of_entry? plain
  refine ⟨⟨fun h => ?_, split_textOf_of_kept plain⟩, ⟨kept_of_read, fun kept => ?_⟩,
    split_textOf plain⟩
  · exact kept_of_read ((congrArg _ h).trans read)
  · exact (congrArg _ (split_textOf_of_kept plain kept)).trans read

/-- Entries of which the second one takes the third one in. -/
def entangled : List (String × String) :=
  [("user", "a=b;c"), ("password", "p\\"), ("autocommit", "0"), ("", "\\;\\")]

theorem entangled_kept_iff :
    (∀ e ∈ entangled, Plain e.1) ∧ ¬ Kept entangled ∧
      split (joinWith [';'] (itemsOf entangled)) ≠ itemsOf entangled ∧
      split (joinWith [';'] (itemsOf entangled)) =
        ["user=a=b\\;c".toList, "password=p\\;autocommit=0".toList, "=\\\\;\\".toList] := by
  have plain : ∀ e ∈ entangled, Plain e.1 := by
    simp only [entangled, List.forall_mem_cons]
    exact ⟨⟨by decide, by decide, by decide⟩, ⟨by decide, by decide, by decide⟩,
      ⟨by decide, by decide, by decide⟩, ⟨by decide, by decide, by decide⟩, List.forall_mem_nil _⟩
  have swallowed : ¬ Kept entangled := fun kept =>
    kept.separator ("password", "p\\") (by decide) (by decide)
  obtain ⟨items, -, cut⟩ := entries_kept_iff plain
  exact ⟨plain, swallowed, mt items.1 swallowed, cut.trans (by decide)⟩

/-- A password that ends in a backslash takes the next setting in: of two items one is found,
and the password is read back with the flag in it, while the flag keeps its default. -/
theorem password_swallows_flag :
    (∀ e ∈ [("password", "p\\"), ("autocommit", "0")], Plain e.1) ∧
      split (joinWith [';'] (itemsOf [("password", "p\\"), ("autocommit", "0")])) =
        ["password=p\\;autocommit=0".toList] ∧
      parse "exa:db:8563;password=p\\;autocommit=0" =
        .ok { host := "db", port := 8563, password := "p;autocommit=0", autocommit := true } := by
  refine ⟨?_, by decide, rfl⟩
  simp only [List.forall_mem_cons]
  exact ⟨⟨by decide, by decide, by decide⟩, ⟨by decide, by decide, by decide⟩, List.forall_mem_nil _⟩

end ExaWire.ConnectionString
