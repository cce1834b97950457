/-
ExaWire/Proofs/Import/LeftOut.lean

The files that an import leaves out.

The recogniser of file clauses knows some characters only.  A clause with another
character in its name is no clause for it: the file is not loaded, the import goes ahead
with the others, and the clause stays in the statement that the server gets.  Only if no
name at all is recognised, the statement is refused.

A name that ends in `FILE` and blanks confuses the search further: what stands between
its closing quotation mark and the opening one of the next name is then taken for a path.
-/
import ExaWire.Proofs.Import.Redirected
import Mathlib.Data.List.Infix

namespace ExaWire.Import

open Text

/-! ### Names between quotation marks -/

/-- A name that does not end in a key word, so that what follows it cannot be a path. -/
def Closed (name : List Char) : Prop := ∀ rest, rest <:+ name → ¬ IsKeyword rest

instance (name : List Char) : Decidable (Closed name) :=
  decidable_of_iff (∀ rest ∈ name.tails, ¬ IsKeyword rest) (by simp [Closed, List.mem_tails])

/-- Clauses for some names, with one space before each of them. -/
def clauses (names : List (List Char)) : List Char := names.flatMap fun name => ' ' :: clause name

/-- An import of the files with some names. -/
def importFrom (names : List (List Char)) : List Char :=
  "IMPORT INTO t FROM LOCAL CSV".toList ++ clauses names

/-- The paths that are recognised in clauses, behind a text that the search passes over.
Behind a key word it is what stands *between* two names. -/
def recognised : List Char → List (List Char) → List (List Char)
  | _, [] => []
  | before, name :: names =>
    if Closed before then
      if IsPath name then name :: recognised [] names else recognised name names
    else " FILE ".toList :: recognised name names

variable {name path xs ys : List Char} {names : List (List Char)}

theorem importFrom_cons (name : List Char) (names : List (List Char)) :
    importFrom (name :: names) = lead "t".toList ++ (clause name ++ clauses names) := by
  have words : lead "t".toList = "IMPORT INTO t FROM LOCAL CSV".toList ++ [' '] := by decide
  rw [words, List.append_assoc]
  rfl

/-- No file clause begins before a quotation mark, unless a key word ends there. -/
theorem Closed.passes (closed : Closed name) (unquoted : ∀ c ∈ name, isQuote c = false)
    (ys : List Char) : Passes file? name ('\'' :: ys) :=
  fun before suffix _ => file?_of_not_isKeyword (fun c hc => unquoted c (suffix.subset hc))
    (closed before suffix) rfl ys

theorem passes_quote (ys : List Char) : Passes file? ['\''] ys :=
  Passes.cons_iff.2 ⟨file?_of_head (by decide) _, .nil⟩

/-- No file clause begins before a name that is no path. -/
theorem passes_before_other (unquoted : ∀ c ∈ name, isQuote c = false) (other : ¬ IsPath name)
    (ys : List Char) : Passes file? ['F', 'I', 'L', 'E', ' '] ('\'' :: (name ++ '\'' :: ys)) :=
  fun _ suffix _ => file?_of_not_isPath (fun c hc => isKeyword_file.not_isQuote c (suffix.subset hc))
    unquoted other rfl rfl ys

/-- No file clause begins in the clause of a name that is no path. -/
theorem passes_other_clause (unquoted : ∀ c ∈ name, isQuote c = false) (closed : Closed name)
    (other : ¬ IsPath name) (ys : List Char) : Passes file? (clause name) ys :=
  Passes.append_iff.2 ⟨Passes.append_iff.2
    ⟨Passes.append_iff.2 ⟨passes_before_other unquoted other ys, passes_quote _⟩,
      closed.passes unquoted ys⟩, passes_quote ys⟩

/-! ### The files that are found -/

theorem skipSpace_append (cs : List Char) :
    ∃ spaces, cs = spaces ++ skipSpace cs ∧ ∀ c ∈ spaces, c = ' ' := by
  fun_cases skipSpace cs with
  | case1 cs => exact ⟨[' '], rfl, by simp⟩
  | case2 cs other => exact ⟨[], rfl, by simp⟩

/-- A space before a text does not matter. -/
theorem files_skipSpace (cs : List Char) : files (skipSpace cs) = files cs := by
  fun_cases skipSpace cs with
  | case1 cs =>
    rw [files, files, scan, file?_of_head (by decide)]
  | case2 cs other => rfl

theorem files_quote (cs : List Char) : files ('\'' :: cs) = files cs := (passes_quote cs).scan_append

/-- A name that is a path is found, with what its clause is written as. -/
theorem files_cons_of_isPath (isPath : IsPath name) (names : List (List Char)) :
    ∃ spaces, (∀ c ∈ spaces, c = ' ') ∧
      files (clauses (name :: names)) = ⟨clause name ++ spaces, name⟩ :: files (clauses names) := by
  obtain ⟨spaces, behind, blank⟩ := skipSpace_append (clauses names)
  refine ⟨spaces, blank, ?_⟩
  have read : file? (clause name ++ spaces ++ skipSpace (clauses names)) =
      some (name, skipSpace (clauses names)) := by
    rw [List.append_assoc, ← behind]
    exact file?_clause isPath _
  have some : clause name ++ spaces ≠ [] := List.append_ne_nil_of_left_ne_nil (clause_ne_nil name) _
  calc files (clauses (name :: names))
      = files (clause name ++ clauses names) := (files_skipSpace (clauses (name :: names))).symm
    _ = files (clause name ++ spaces ++ skipSpace (clauses names)) := by
      rw [List.append_assoc, ← behind]
    _ = ⟨clause name ++ spaces, name⟩ :: files (skipSpace (clauses names)) := scan_append some read
    _ = _ := by rw [files_skipSpace]

/-- Another name is passed over up to its closing quotation mark. -/
theorem files_cons_of_not_isPath (unquoted : ∀ c ∈ name, isQuote c = false) (other : ¬ IsPath name)
    (names : List (List Char)) :
    files (clauses (name :: names)) = files (name ++ '\'' :: clauses names) := by
  have word : Passes file? ['F', 'I', 'L', 'E', ' '] ('\'' :: (name ++ '\'' :: clauses names)) :=
    passes_before_other unquoted other _
  calc files (clauses (name :: names))
      = files (clause name ++ clauses names) := (files_skipSpace (clauses (name :: names))).symm
    _ = files ('\'' :: (name ++ '\'' :: clauses names)) := by
      rw [clause_append]
      exact word.scan_append
    _ = files (name ++ '\'' :: clauses names) := files_quote _

theorem files_importFrom (some : names ≠ []) : files (importFrom names) = files (clauses names) := by
  obtain ⟨name, names, rfl⟩ := List.exists_cons_of_ne_nil some
  rw [importFrom_cons]
  exact (passes_lead (forall_mem_of_all (by decide)) _ _).scan_append.trans
    (files_skipSpace (clauses (name :: names)))

/-- A text that ends in a key word makes a path of what stands between two names. -/
theorem value_files_of_not_closed {before : List Char} (unquoted : ∀ c ∈ before, isQuote c = false)
    (closed : ¬ Closed before) (name : List Char) (names : List (List Char)) :
    (files (before ++ '\'' :: clauses (name :: names))).map Found.value =
      " FILE ".toList :: (files (name ++ '\'' :: clauses names)).map Found.value := by
  obtain ⟨keyword, ⟨front, rfl⟩, hk⟩ : ∃ keyword, keyword <:+ before ∧ IsKeyword keyword := by
    simpa [Closed] using closed
  have hfront : ∀ c ∈ front, isQuote c = false := fun c hc => unquoted c (List.mem_append_left _ hc)
  obtain ⟨spaces, behind, -⟩ := skipSpace_append (name ++ '\'' :: clauses names)
  have between : clauses (name :: names) =
      " FILE ".toList ++ '\'' :: (name ++ '\'' :: clauses names) :=
    congrArg (' ' :: ·) (clause_append name (clauses names))
  have text : keyword ++ '\'' :: clauses (name :: names) =
      keyword ++ '\'' :: (" FILE ".toList ++ '\'' :: spaces) ++
        skipSpace (name ++ '\'' :: clauses names) := by
    simp only [between, List.append_assoc, List.cons_append, ← behind]
  have read : file? (keyword ++ '\'' :: clauses (name :: names)) =
      some (" FILE ".toList, skipSpace (name ++ '\'' :: clauses names)) :=
    (file?_quote_iff hk.not_isQuote rfl).2 ⟨hk, by decide, '\'', _, rfl, between, rfl⟩
  have found : files (keyword ++ '\'' :: clauses (name :: names)) =
      ⟨keyword ++ '\'' :: (" FILE ".toList ++ '\'' :: spaces), " FILE ".toList⟩ ::
        files (name ++ '\'' :: clauses names) := by
    rw [text] at read ⊢
    rw [← files_skipSpace (name ++ '\'' :: clauses names)]
    exact scan_append (List.append_ne_nil_of_right_ne_nil _ (List.cons_ne_nil _ _)) read
  have passes : files (front ++ keyword ++ '\'' :: clauses (name :: names)) =
      files (keyword ++ '\'' :: clauses (name :: names)) := by
    rw [List.append_assoc]
    exact (passes_keyword hfront hk rfl _).scan_append
  rw [passes, found]
  rfl

/-- The files found are those that are recognised. -/
theorem value_files {before : List Char} (hbefore : ∀ c ∈ before, isQuote c = false)
    (unquoted : ∀ name ∈ names, ∀ c ∈ name, isQuote c = false) :
    (files (before ++ '\'' :: clauses names)).map Found.value = recognised before names := by
  -- what is passed over goes on to the closing quotation mark of a name that is no path
  induction names generalizing before with
  | nil =>
    -- one quotation mark is left, and a clause needs two
    have last : Passes file? before ['\''] := by
      intro rest suffix _
      rw [Option.eq_none_iff_forall_ne_some]
      rintro ⟨path, behind⟩ e
      obtain ⟨-, -, q, more, -, open', -⟩ :=
        (file?_quote_iff (fun c hc => hbefore c (suffix.subset hc)) rfl).1 e
      cases path <;> cases open'
    show (scan file? 0 (before ++ ['\''])).map Found.value = []
    rw [last.scan_append]
    rfl
  | cons name names ih =>
    obtain ⟨hname, hnames⟩ := List.forall_mem_cons.1 unquoted
    rw [recognised]
    by_cases closed : Closed before
    · have passes : files (before ++ '\'' :: clauses (name :: names)) = files (clauses (name :: names)) :=
        (closed.passes hbefore _).scan_append.trans (files_quote _)
      rw [passes, if_pos closed]
      by_cases isPath : IsPath name
      · obtain ⟨spaces, -, found⟩ := files_cons_of_isPath isPath names
        have later := ih (List.forall_mem_nil _) hnames
        rw [List.nil_append, files_quote] at later
        rw [if_pos isPath, found, List.map_cons, later]
      · rw [if_neg isPath, files_cons_of_not_isPath hname isPath, ih hname hnames]
    · rw [if_neg closed, value_files_of_not_closed hbefore closed, ih hname hnames]

/-- A file found was written as a clause, and some spaces. -/
theorem text_files (unquoted : ∀ name ∈ names, ∀ c ∈ name, isQuote c = false)
    (closed : ∀ name ∈ names, Closed name) {found : Found (List Char)}
    (h : found ∈ files (clauses names)) :
    found.value ∈ names ∧ ∃ spaces, (∀ c ∈ spaces, c = ' ') ∧
      found.text = clause found.value ++ spaces := by
  induction names with
  | nil => cases h
  | cons name names ih =>
    obtain ⟨hname, hnames⟩ := List.forall_mem_cons.1 unquoted
    obtain ⟨cname, cnames⟩ := List.forall_mem_cons.1 closed
    have later (h : found ∈ files (clauses names)) := ih hnames cnames h
    by_cases isPath : IsPath name
    · obtain ⟨spaces, blank, e⟩ := files_cons_of_isPath isPath names
      rw [e] at h
      obtain rfl | h := List.mem_cons.1 h
      · exact ⟨List.mem_cons_self, spaces, blank, rfl⟩
      · exact ⟨List.mem_cons_of_mem _ (later h).1, (later h).2⟩
    · have passes : files (name ++ '\'' :: clauses names) = files (clauses names) :=
        (cname.passes hname _).scan_append.trans (files_quote _)
      rw [files_cons_of_not_isPath hname isPath, passes] at h
      exact ⟨List.mem_cons_of_mem _ (later h).1, (later h).2⟩

/-- Whatever is found in a text is a path. -/
theorem isPath_of_mem_files {sql : List Char} {found : Found (List Char)} (h : found ∈ files sql) :
    IsPath found.value := by
  obtain ⟨_, _, e⟩ := read_of_mem_scan h
  obtain ⟨_, _, _, _, -, -, isPath, -⟩ := file?_eq_some_iff.1 e
  exact isPath

/-! ### The clauses that stay -/

/-- What does not begin in a text begins behind it. -/
theorem Passes.begins_behind {old before rest : List Char} (h : Passes (after? old) xs ys)
    (e : xs ++ ys = before ++ (old ++ rest)) :
    ∃ more, before = xs ++ more ∧ ys = more ++ (old ++ rest) := by
  obtain ⟨more, later, behind⟩ | ⟨more, inside, behind⟩ := List.append_eq_append_iff.1 e
  · exact ⟨more, later, behind⟩
  · by_cases none : more = []
    · exact ⟨[], by simpa [none] using inside.symm, by simpa [none] using behind.symm⟩
    · have begins := after?_eq_some_iff.2 behind.symm
      rw [h more (inside ▸ List.suffix_append _ _) none] at begins
      cases begins

/-- A text stays if what is replaced does not overlap it: neither begins inside the other. -/
theorem replaceFirst_keeps {kept old : List Char} (some : kept ≠ []) (h : kept <:+: xs)
    (kept_passes : ∀ ys, Passes (after? old) kept ys)
    (old_passes : ∀ ys, Passes (after? kept) old.tail ys) (new : List Char) :
    kept <:+: replaceFirst old new xs := by
  obtain ⟨a, b, whole⟩ := h
  cases cut : cut? old xs with
  | none =>
    rw [replaceFirst, cut]
    exact ⟨a, b, whole⟩
  | some parts =>
    obtain ⟨before, rest⟩ := parts
    have apart : kept <:+: before ∨ kept <:+: rest := by
      rw [eq_of_cut? cut, List.append_assoc, List.append_assoc] at whole
      obtain ⟨more, rfl, e⟩ | ⟨more, rfl, e⟩ := List.append_eq_append_iff.1 whole
      · -- what is replaced does not begin before the text, and so behind it
        obtain ⟨_, rfl, -⟩ := (kept_passes b).begins_behind e
        exact .inl ⟨a, _, List.append_assoc _ _ _⟩
      · -- what is replaced begins before the text, and so ends before it
        cases more with
        | nil =>
          have begins := after?_eq_some_iff.2 e.symm
          rw [List.nil_append, kept_passes b kept List.suffix_rfl some] at begins
          cases begins
        | cons c more =>
          cases old with
          | nil => exact .inr ⟨c :: more, b, by simpa using e.symm⟩
          | cons o old =>
            obtain ⟨_, -, rfl⟩ := (old_passes rest).begins_behind (List.cons.inj e).2
            exact .inr ⟨_, b, List.append_assoc _ _ _⟩
    rw [replaceFirst, cut]
    show kept <:+: before ++ new ++ rest
    obtain left | right := apart
    · rw [List.append_assoc]
      exact left.trans (List.prefix_append _ _).isInfix
    · exact right.trans (List.suffix_append _ _).isInfix

/-- No clause begins inside another one that is closed, or in spaces behind it. -/
theorem passes_tail_clause (unquoted : ∀ c ∈ path, isQuote c = false) (closed : Closed path)
    {spaces : List Char} (blank : ∀ c ∈ spaces, c = ' ') (name ys : List Char) :
    Passes (after? (clause name)) (clause path ++ spaces).tail ys := by
  have head {c : Char} (other : 'F' ≠ c) (cs : List Char) : after? (clause name) (c :: cs) = none := by
    rw [← List.append_nil (clause name), clause_append]
    exact if_neg other
  have inner : Passes (after? (clause name)) path ('\'' :: (spaces ++ ys)) := by
    intro before suffix some
    rw [Option.eq_none_iff_forall_ne_some]
    intro rest e
    have e := after?_eq_some_iff.1 e
    rw [clause_append] at e
    obtain ⟨rfl, -, -⟩ := append_cons_inj (fun c hc => unquoted c (suffix.subset hc)) rfl
      isKeyword_file.not_isQuote rfl e
    exact closed _ suffix isKeyword_file
  have keyword : Passes (after? (clause name)) "ILE '".toList (path ++ ('\'' :: spaces ++ ys)) :=
    Passes.of_head fun c hc => head (forall_mem_of_all (by decide) c hc)
  have closing : Passes (after? (clause name)) ('\'' :: spaces) ys := by
    refine Passes.of_head fun c hc => head ?_
    obtain rfl | hc := List.mem_cons.1 hc
    · decide
    · rw [blank c hc]
      decide
  have tail : (clause path ++ spaces).tail = "ILE '".toList ++ (path ++ '\'' :: spaces) := by
    rw [clause_append]
    rfl
  rw [tail]
  exact Passes.append_iff.2 ⟨by simpa using keyword, Passes.append_iff.2 ⟨inner, closing⟩⟩

/-- The clauses that are replaced are those of files found; all others stay. -/
theorem replaceFiles_keeps {sql : List Char} (h : clause name <:+: sql)
    (unquoted : ∀ c ∈ name, isQuote c = false) (closed : Closed name) (other : ¬ IsPath name)
    (found : ∀ f ∈ files sql, Closed f.value ∧ ∃ spaces, (∀ c ∈ spaces, c = ' ') ∧
      f.text = clause f.value ++ spaces) : clause name <:+: replaceFiles sql := by
  have keeps {f : Found (List Char)} (hf : f ∈ files sql) {sql' new : List Char}
      (h : clause name <:+: sql') : clause name <:+: replaceFirst f.text new sql' := by
    have isPath := isPath_of_mem_files hf
    obtain ⟨fclosed, spaces, blank, text⟩ := found f hf
    rw [text]
    exact replaceFirst_keeps (clause_ne_nil name) h
      (fun ys => (passes_other_clause unquoted closed other ys).after?_clause isPath spaces)
      (passes_tail_clause (fun c hc => not_isQuote_of_isPathChar (isPath.2 c hc)) fclosed blank name) new
  have folds (fs : List (Found (List Char))) (hfs : ∀ f ∈ fs, f ∈ files sql) {sql' : List Char}
      (h : clause name <:+: sql') :
      clause name <:+: fs.foldl (fun sql f => replaceFirst f.text [] sql) sql' := by
    induction fs generalizing sql' with
    | nil => exact h
    | cons f fs ih =>
      obtain ⟨hf, hfs⟩ := List.forall_mem_cons.1 hfs
      exact ih hfs (keeps hf h)
  unfold replaceFiles
  split
  · exact h
  · next first others e =>
    rw [e] at keeps folds
    exact folds others (fun f hf => List.mem_cons_of_mem _ hf) (keeps List.mem_cons_self h)

/-- A marker has no letter of `FILE` but the `L`, and so ends before a file clause begins. -/
theorem IsMarker.notMem_F {marker : List Char} (h : IsMarker marker) : 'F' ∉ marker := by
  obtain ⟨u, gap, v, hu, hgap, hv, rfl⟩ := h
  have spelled {u w : List Char} (hu : u.map foldCase = w) (h : 'F' ∈ u) : 'f' ∈ w :=
    hu ▸ List.mem_map.2 ⟨'F', h, by decide⟩
  simp only [List.mem_append, not_or]
  exact ⟨⟨fun h => absurd (spelled hu h) (by decide), fun h => absurd (hgap.2 'F' h) (by decide)⟩,
    fun h => absurd (spelled hv h) (by decide)⟩

theorem IsMarker.ends_before_clause {marker before behind rest : List Char} (h : IsMarker marker)
    (e : before ++ (clause name ++ behind) = marker ++ rest) : ∃ more, before = marker ++ more := by
  obtain ⟨more, rfl, inside⟩ | ⟨more, rfl, -⟩ := List.append_eq_append_iff.1 e
  · cases more with
    | nil => exact ⟨[], by simp⟩
    | cons c more =>
      rw [clause_append] at inside
      obtain ⟨rfl, -⟩ := List.cons.inj inside
      exact absurd (by simp) h.notMem_F
  · exact ⟨more, rfl⟩

/-- Clauses without a marker stay where markers are replaced. -/
theorem substitute_keeps (unmarked : occurs localCsv? name = false) (pieces : List Piece)
    (before behind : List Char) :
    clause name <:+: substitute localCsv? pieces 0 (before ++ (clause name ++ behind)) := by
  -- a marker takes more than one character, so the induction is on the length
  induction size : before.length using Nat.strong_induction_on generalizing before with
  | _ n ih =>
  cases before with
  | nil =>
    rw [List.nil_append, (passes_clause unmarked behind).substitute_append]
    exact (List.prefix_append _ _).isInfix
  | cons c before =>
    cases read : localCsv? (c :: before ++ (clause name ++ behind)) with
    | none =>
      rw [List.cons_append] at read ⊢
      rw [substitute, read]
      exact (ih before.length (by simp [← size]) before rfl).trans (List.suffix_cons c _).isInfix
    | some rest =>
      obtain ⟨marker, isMarker, e⟩ := localCsv?_eq_some_iff.1 read
      obtain ⟨more, rest_eq⟩ := isMarker.ends_before_clause e
      have shorter : more.length < n := by
        have := List.length_pos_iff.2 isMarker.ne_nil
        rw [← size, rest_eq, List.length_append]
        omega
      rw [rest_eq, List.append_assoc, substitute_append isMarker.ne_nil
        (localCsv?_eq_some_iff.2 ⟨marker, isMarker, rfl⟩)]
      exact (ih more.length shorter more rfl).trans (List.suffix_append _ _).isInfix

/-! ### Imports of files with any names -/

/-- If all names are paths, or no name ends in a key word, those that are paths are recognised. -/
theorem recognised_eq_filter {before : List Char} (hbefore : Closed before)
    (h : ∀ name ∈ names, IsPath name ∨ Closed name) :
    recognised before names = names.filter (IsPath ·) := by
  have empty : Closed [] := by decide
  induction names generalizing before with
  | nil => rfl
  | cons name names ih =>
    obtain ⟨hname, hnames⟩ := List.forall_mem_cons.1 h
    rw [recognised, if_pos hbefore]
    by_cases isPath : IsPath name
    · rw [if_pos isPath, ih empty hnames, List.filter_cons_of_pos (by simpa using isPath)]
    · rw [if_neg isPath, ih (hname.resolve_left isPath) hnames,
        List.filter_cons_of_neg (by simpa using isPath)]

theorem isPath_of_mem_recognised {before : List Char} (h : path ∈ recognised before names) :
    IsPath path := by
  fun_induction recognised before names with
  | case1 => cases h
  | case2 before name names closed isPath ih =>
    obtain rfl | h := List.mem_cons.1 h
    · exact isPath
    · exact ih h
  | case3 before name names closed other ih => exact ih h
  | case4 before name names closed ih =>
    obtain rfl | h := List.mem_cons.1 h
    · decide
    · exact ih h

/-- The import of some files: its paths are those that are recognised. -/
theorem paths_importFrom (some : names ≠ [])
    (unquoted : ∀ name ∈ names, ∀ c ∈ name, isQuote c = false) :
    (Job.ofStatement (String.ofList (importFrom names))).map Job.paths =
      if recognised [] names = [] then .error (.of .importQuery "could not parse import query")
      else .ok ((recognised [] names).map String.ofList) := by
  have values : (files (importFrom names)).map Found.value = recognised [] names := by
    rw [files_importFrom some, ← files_quote]
    exact value_files (List.forall_mem_nil _) unquoted
  rw [Job.ofStatement_eq, ← values]
  cases files (importFrom names) with
  | nil => rfl
  | cons f fs => simp [Except.map]

/-- A clause stays in the redirected statement if its name is no path, and the names do not
run into each other. -/
theorem redirect_keeps (some : names ≠ [])
    (unquoted : ∀ name ∈ names, ∀ c ∈ name, isQuote c = false)
    (closed : ∀ name ∈ names, Closed name) {url : List Char} (plain : '\\' ∉ url) :
    ∃ text, redirect (importFrom names) url = .ok text ∧
      ∀ name ∈ names, ¬ IsPath name → occurs localCsv? name = false → clause name <:+: text := by
  have loads : isImport (importFrom names) = true := by
    obtain ⟨name, others, rfl⟩ := List.exists_cons_of_ne_nil some
    rw [importFrom_cons]
    exact isImport_lead _ _
  refine ⟨_, redirect_of_isImport loads plain, fun name h other unmarked => ?_⟩
  have stands : clause name <:+: importFrom names := by
    obtain ⟨before, behind, rfl⟩ := List.append_of_mem h
    have parts : clauses (before ++ name :: behind) =
        clauses before ++ ([' '] ++ clause name ++ clauses behind) := by
      rw [clauses, List.flatMap_append, List.flatMap_cons]
      rfl
    unfold importFrom
    rw [parts]
    refine ⟨"IMPORT INTO t FROM LOCAL CSV".toList ++ clauses before ++ [' '], clauses behind, ?_⟩
    simp only [List.append_assoc]
  obtain ⟨before, behind, e⟩ := replaceFiles_keeps stands (unquoted name h) (closed name h) other
    fun f hf => by
      rw [files_importFrom some] at hf
      obtain ⟨mem, written⟩ := text_files unquoted closed hf
      exact ⟨closed _ mem, written⟩
  rw [← e, List.append_assoc]
  exact substitute_keeps unmarked _ before behind

/-- The paths of an import are those that are recognised, of which there has to be one.
They are its files exactly if all names are paths.  If no name ends in a key word, they are
the names that are paths; and whatever the import is redirected to, the clauses of the
others stay in the statement. -/
theorem files_left_out (some : names ≠ [])
    (unquoted : ∀ name ∈ names, ∀ c ∈ name, isQuote c = false) :
    (Job.ofStatement (String.ofList (importFrom names))).map Job.paths =
        (if recognised [] names = [] then .error (.of .importQuery "could not parse import query")
        else .ok ((recognised [] names).map String.ofList)) ∧
      (recognised [] names = names ↔ ∀ name ∈ names, IsPath name) ∧
      ((∀ name ∈ names, Closed name) →
        recognised [] names = names.filter (IsPath ·) ∧
          ∀ url, '\\' ∉ url → ∃ text, redirect (importFrom names) url = .ok text ∧
            ∀ name ∈ names, ¬ IsPath name → occurs localCsv? name = false →
              clause name <:+: text) := by
  refine ⟨paths_importFrom some unquoted, ⟨fun e name h => ?_, fun h => ?_⟩, fun closed => ⟨?_, ?_⟩⟩
  · exact isPath_of_mem_recognised (e ▸ h)
  · rw [recognised_eq_filter (by decide) fun name hn => .inl (h name hn)]
    simpa using h
  · exact recognised_eq_filter (by decide) fun name hn => .inr (closed name hn)
  · exact fun url plain => redirect_keeps some unquoted closed plain

/-- A name with a bracket beside a plain one: the import has one path, and the other file's
clause stays. -/
theorem bracketed_left_out :
    (["a.csv".toList, "rows(2).csv".toList] ≠ [] ∧
        (∀ name ∈ ["a.csv".toList, "rows(2).csv".toList], ∀ c ∈ name, isQuote c = false) ∧
        (∀ name ∈ ["a.csv".toList, "rows(2).csv".toList], Closed name) ∧
        '\\' ∉ "http://10.0.0.7:4711".toList ∧ ¬ IsPath "rows(2).csv".toList ∧
        occurs localCsv? "rows(2).csv".toList = false) ∧
      recognised [] ["a.csv".toList, "rows(2).csv".toList] = ["a.csv".toList] ∧
      ∃ text, redirect (importFrom ["a.csv".toList, "rows(2).csv".toList])
          "http://10.0.0.7:4711".toList = .ok text ∧ clause "rows(2).csv".toList <:+: text := by
  have some : ["a.csv".toList, "rows(2).csv".toList] ≠ [] := by decide
  have unquoted : ∀ name ∈ ["a.csv".toList, "rows(2).csv".toList], ∀ c ∈ name, isQuote c = false := by
    simp only [List.forall_mem_cons]
    exact ⟨forall_mem_of_all (by decide), forall_mem_of_all (by decide), List.forall_mem_nil _⟩
  have closed : ∀ name ∈ ["a.csv".toList, "rows(2).csv".toList], Closed name := by decide
  have plain : '\\' ∉ "http://10.0.0.7:4711".toList := by decide
  have other : ¬ IsPath "rows(2).csv".toList := by decide
  have unmarked : occurs localCsv? "rows(2).csv".toList = false := by decide
  obtain ⟨-, -, apart⟩ := files_left_out some unquoted
  obtain ⟨paths, keeps⟩ := apart closed
  obtain ⟨text, redirected, stays⟩ := keeps _ plain
  exact ⟨⟨some, unquoted, closed, plain, other, unmarked⟩, paths.trans (by decide), text, redirected,
    stays _ (by decide) other unmarked⟩

/-- An import of two files loads one of them without a word, and the clause of the other one
goes to the server. -/
theorem one_file_of_two_left_out :
    (Job.ofStatement "IMPORT INTO t FROM LOCAL CSV FILE 'a.csv' FILE 'rows(2).csv'").map Job.paths =
        .ok ["a.csv"] ∧
      redirect "IMPORT INTO t FROM LOCAL CSV FILE 'a.csv' FILE 'rows(2).csv'".toList
          "http://10.0.0.7:4711".toList =
        .ok ("IMPORT INTO t FROM CSV AT 'http://10.0.0.7:4711' ".toList ++
          "FILE 'data.csv' FILE 'rows(2).csv'".toList) :=
  ⟨rfl, rfl⟩

end ExaWire.Import
