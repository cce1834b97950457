/-
ExaWire/Proofs/Import/Redirected.lean

What a redirected import says.

The files of a statement are collected from its text, but each is replaced where its
clause *first* stands in a text that has changed meanwhile.  For a statement of the usual
form this is no difference: up to the files there is no quotation mark, so the first
clause stands where it was found; and from then on the synthetic clause stands before the
clause that goes next.  Either the two are different, or it does not matter which one goes.

Paths may be equal, or be `data.csv`, or contain `FILE` or `LOCAL CSV`: what counts is
between which quotation marks they stand.
-/
import ExaWire.Proofs.Import.Passing

namespace ExaWire.Import

open Text

variable {table url tail name path xs ys : List Char} {paths : List (List Char)}

/-! ### Clauses as they are written -/

/-- A file clause. -/
def clause (name : List Char) : List Char := "FILE '".toList ++ name ++ ['\'']

theorem clause_append (name rest : List Char) :
    clause name ++ rest = ['F', 'I', 'L', 'E', ' '] ++ '\'' :: (name ++ '\'' :: rest) := by
  unfold clause
  simp only [List.append_assoc]
  rfl

theorem clause_ne_nil (name : List Char) : clause name ≠ [] := by
  rw [← List.append_nil (clause name), clause_append]
  exact List.cons_ne_nil _ _

theorem syntheticFile_eq : syntheticFile = clause "data.csv".toList ++ [' '] := by decide

theorem file?_clause (isPath : IsPath path) (rest : List Char) :
    file? (clause path ++ rest) = some (path, skipSpace rest) := by
  rw [clause_append]
  exact (file?_quote_iff isKeyword_file.not_isQuote rfl).2
    ⟨isKeyword_file, isPath, '\'', rest, rfl, rfl, rfl⟩

/-- Where no file clause begins, none of a certain path does. -/
theorem Passes.after?_clause (isPath : IsPath path) (h : Passes file? xs ys) (more : List Char) :
    Passes (after? (clause path ++ more)) xs ys := by
  intro rest suffix some
  rw [Option.eq_none_iff_forall_ne_some]
  intro behind e
  have here := file?_clause isPath (more ++ behind)
  rw [← List.append_assoc, ← after?_eq_some_iff.1 e, h rest suffix some] at here
  cases here

/-- No file clause begins in the synthetic one but itself. -/
theorem passes_syntheticFile (isPath : IsPath path) (other : path ≠ "data.csv".toList)
    (more rest : List Char) : Passes (after? (clause path ++ more)) syntheticFile rest := by
  have head : syntheticFile = 'F' :: "ILE 'data.csv' ".toList := by decide
  rw [head, Passes.cons_iff]
  constructor
  · rw [← List.cons_append, ← head, Option.eq_none_iff_forall_ne_some]
    intro behind e
    have here := file?_clause isPath (more ++ behind)
    rw [← List.append_assoc, ← after?_eq_some_iff.1 e, syntheticFile_eq, List.append_assoc,
      file?_clause (by decide)] at here
    exact other (Prod.mk.inj (Option.some.inj here)).1.symm
  · have inside : ∀ c ∈ "ILE 'data.csv' ".toList, foldCase c ≠ 'f' := forall_mem_of_all (by decide)
    exact Passes.after?_clause isPath (.of_head fun c hc => file?_of_head (inside c hc)) more

/-- No marker begins in a text without an `L`. -/
theorem passes_letters (other : xs.all (foldCase · ≠ 'l') = true) (ys : List Char) :
    Passes localCsv? xs ys :=
  Passes.of_head fun c hc => localCsv?_of_head (forall_mem_of_all other c hc)

/-- No marker begins in a text before a quotation mark, unless one stands in it. -/
theorem Passes.of_occurs_quote (unmarked : occurs localCsv? xs = false) (ys : List Char) :
    Passes localCsv? xs ('\'' :: ys) := fun rest suffix some => by
  have none := Passes.of_occurs unmarked rest suffix some
  rw [List.append_nil] at none
  exact localCsv?_of_quote rfl none ys

/-- No marker begins in a file clause, unless one stands in the name. -/
theorem passes_clause (unmarked : occurs localCsv? name = false) (ys : List Char) :
    Passes localCsv? (clause name) ys := by
  have solid : ∀ c ∈ "FILE".toList, isBlank c = false := forall_mem_of_all (by decide)
  have word : Passes localCsv? "FILE".toList (" '".toList ++ (name ++ '\'' :: ys)) :=
    fun rest suffix _ => localCsv?_of_word (fun c hc => solid c (suffix.subset hc))
      (by decide) (by decide) _
  have keyword : Passes localCsv? "FILE '".toList (name ++ '\'' :: ys) :=
    Passes.append_iff.2 ⟨word, passes_letters (by decide) _⟩
  exact Passes.append_iff.2 ⟨Passes.append_iff.2 ⟨keyword, .of_occurs_quote unmarked ys⟩,
    passes_letters (by decide) _⟩

/-! ### Statements of the usual form -/

/-- What stands before the source of an import. -/
def intoTable (table : List Char) : List Char := "IMPORT INTO ".toList ++ table ++ " FROM ".toList

/-- What stands before the files of an import. -/
def lead (table : List Char) : List Char := intoTable table ++ "LOCAL CSV ".toList

/-- File clauses, each with one space behind it. -/
def fileClauses (paths : List (List Char)) : List Char :=
  paths.flatMap fun path => clause path ++ [' ']

/-- An import of local files into a table. -/
def importOf (table : List Char) (paths : List (List Char)) (tail : List Char) : List Char :=
  lead table ++ fileClauses paths ++ tail

/-- The same import with an endpoint as its source, and one synthetic file. -/
def importAt (table url tail : List Char) : List Char :=
  intoTable table ++ "CSV AT '".toList ++ url ++ "' FILE 'data.csv' ".toList ++ tail

/-- The parts of an import: the name of the table is one word, and the text behind the
files has neither a file clause nor a marker. -/
structure WellFormed (table : List Char) (paths : List (List Char)) (tail : List Char) : Prop where
  table : ∀ c ∈ table, isBlank c = false ∧ isQuote c = false
  nonempty : paths ≠ []
  paths : ∀ path ∈ paths, IsPath path
  files : files tail = []
  marker : occurs localCsv? tail = false

theorem fileClauses_cons (path : List Char) (paths : List (List Char)) (rest : List Char) :
    fileClauses (path :: paths) ++ rest = clause path ++ [' '] ++ (fileClauses paths ++ rest) := by
  rw [fileClauses, List.flatMap_cons, List.append_assoc]
  rfl

theorem lead_not_isQuote (word : ∀ c ∈ table, isQuote c = false) :
    ∀ c ∈ lead table, isQuote c = false := by
  have before : ∀ c ∈ "IMPORT INTO ".toList ++ table, isQuote c = false :=
    List.forall_mem_append.2 ⟨forall_mem_of_all (by decide), word⟩
  exact List.forall_mem_append.2
    ⟨List.forall_mem_append.2 ⟨before, forall_mem_of_all (by decide)⟩, forall_mem_of_all (by decide)⟩

/-- No file clause begins in what stands before the first one. -/
theorem passes_lead (word : ∀ c ∈ table, isQuote c = false) (name rest : List Char) :
    Passes file? (lead table) (clause name ++ rest) := by
  rw [clause_append]
  exact passes_keyword (lead_not_isQuote word) isKeyword_file rfl _

theorem lead_eq (table rest : List Char) :
    lead table ++ rest = intoTable table ++ ("LOCAL CSV".toList ++ ([' '] ++ rest)) := by
  have words : "LOCAL CSV ".toList = "LOCAL CSV".toList ++ [' '] := by decide
  unfold lead
  rw [words]
  simp only [List.append_assoc]

theorem importAt_eq (table url tail : List Char) :
    importAt table url tail =
      intoTable table ++ (sourceAt url ++ ([' '] ++ (syntheticFile ++ tail))) := by
  have words : "' FILE 'data.csv' ".toList = ['\''] ++ [' '] ++ syntheticFile := by decide
  unfold importAt sourceAt
  rw [words]
  simp only [List.append_assoc]

/-- The statement loads local files. -/
theorem isImport_lead (table rest : List Char) : isImport (lead table ++ rest) = true := by
  -- one character of the statement stands for the text that `IMPORT` needs behind it
  have starts (cs : List Char) :
      startsImport ("IMPORT INTO ".toList ++ cs) = occurs fromLocalCsv? ("NTO ".toList ++ cs) := rfl
  have source (cs : List Char) :
      fromLocalCsv? ("FROM ".toList ++ ("LOCAL CSV ".toList ++ cs)) = some (' ' :: cs) := rfl
  have behind (cs : List Char) :
      "FROM ".toList ++ cs <:+ "NTO ".toList ++ (table ++ (" FROM ".toList ++ cs)) :=
    (List.suffix_cons ' ' _).trans ((List.suffix_append _ _).trans (List.suffix_append _ _))
  have first : startsImport (lead table ++ rest) = true := by
    unfold lead intoTable
    simp only [List.append_assoc]
    rw [starts, occurs_iff]
    exact ⟨_, behind _, by rw [source, Option.isSome_some]⟩
  rw [isImport, first, Bool.true_or]

theorem isImport_importOf (table : List Char) (paths : List (List Char)) (tail : List Char) :
    isImport (importOf table paths tail) = true := by
  rw [importOf, List.append_assoc]
  exact isImport_lead table _

/-- No marker begins before the source. -/
theorem passes_intoTable (word : ∀ c ∈ table, isBlank c = false) (ys : List Char) :
    Passes localCsv? (intoTable table) ys := by
  have name : Passes localCsv? table (" FROM ".toList ++ ys) := fun rest suffix _ =>
    localCsv?_of_word (fun c hc => word c (suffix.subset hc)) (by decide) (by decide)
      ("ROM ".toList ++ ys)
  exact Passes.append_iff.2 ⟨Passes.append_iff.2 ⟨passes_letters (by decide) _, name⟩,
    passes_letters (by decide) _⟩

/-- No marker begins in the source, unless one stands in the address. -/
theorem passes_sourceAt (unmarked : occurs localCsv? url = false) (ys : List Char) :
    Passes localCsv? (sourceAt url) ys :=
  Passes.append_iff.2 ⟨Passes.append_iff.2
    ⟨passes_letters (by decide) _, .of_occurs_quote unmarked ys⟩, passes_letters (by decide) _⟩

/-- No marker begins between the source and what is behind the synthetic clause. -/
theorem passes_space_syntheticFile (ys : List Char) :
    Passes localCsv? ([' '] ++ syntheticFile) ys := by
  rw [syntheticFile_eq]
  exact Passes.append_iff.2 ⟨passes_letters (by decide) _,
    Passes.append_iff.2 ⟨passes_clause (by decide) _, passes_letters (by decide) _⟩⟩

/-- A plain address stands for itself wherever a marker stood. -/
theorem redirect_of_isImport {sql : List Char} (loads : isImport sql = true) (plain : '\\' ∉ url) :
    redirect sql url =
      .ok (substitute localCsv? ((sourceAt url).map Piece.char) 0 (replaceFiles sql)) := by
  have pieces : template (sourceAt url) = .ok ((sourceAt url).map Piece.char) :=
    template_of_notMem <| by
      unfold sourceAt
      simp only [List.mem_append, plain, or_false, not_or]
      decide
  rw [redirect, if_pos loads, pieces]
  rfl

/-! ### The files -/

/-- The files of some clauses, and of what follows. -/
theorem files_fileClauses (h : ∀ path ∈ paths, IsPath path) (tail : List Char) :
    files (fileClauses paths ++ tail) =
      paths.map (fun path => ⟨clause path ++ [' '], path⟩) ++ files tail := by
  induction paths with
  | nil => rfl
  | cons path paths ih =>
    obtain ⟨isPath, others⟩ := List.forall_mem_cons.1 h
    have some : clause path ++ [' '] ≠ [] := by simp
    have read (ys : List Char) : file? (clause path ++ [' '] ++ ys) = .some (path, ys) := by
      rw [List.append_assoc, file?_clause isPath]
      rfl
    rw [fileClauses_cons]
    exact (scan_append some (read _)).trans (congrArg (_ :: ·) (ih others))

section Replaced

variable (word : ∀ c ∈ table, isQuote c = false)
include word

/-- The first clause is replaced where it was found. -/
theorem replaceFirst_lead (isPath : IsPath path) (new rest : List Char) :
    replaceFirst (clause path ++ [' ']) new (lead table ++ (clause path ++ [' '] ++ rest)) =
      lead table ++ (new ++ rest) := by
  have passes : Passes (after? (clause path ++ [' '])) (lead table) (clause path ++ [' '] ++ rest) := by
    rw [List.append_assoc]
    exact (passes_lead word _ _).after?_clause isPath _
  rw [passes.replaceFirst_append, replaceFirst_self (by simp)]

/-- Behind the synthetic clause the next clause goes. -/
theorem replaceFirst_next (isPath : IsPath path) (rest : List Char) :
    replaceFirst (clause path ++ [' ']) []
        (lead table ++ (syntheticFile ++ (clause path ++ [' '] ++ rest))) =
      lead table ++ (syntheticFile ++ rest) := by
  by_cases same : path = "data.csv".toList
  · -- the synthetic clause itself goes, and its like stands in its place
    rw [same, syntheticFile_eq, replaceFirst_lead word (by decide)]
    rfl
  · have lead_passes (ys : List Char) :
        Passes (after? (clause path ++ [' '])) (lead table) (syntheticFile ++ ys) := by
      rw [syntheticFile_eq, List.append_assoc]
      exact (passes_lead word _ _).after?_clause isPath _
    rw [(lead_passes _).replaceFirst_append,
      (passes_syntheticFile isPath same _ _).replaceFirst_append, replaceFirst_self (by simp),
      List.nil_append]

/-- Behind the synthetic clause all clauses go, one after the other. -/
theorem foldl_replaceFirst (h : ∀ path ∈ paths, IsPath path) (rest : List Char) :
    (paths.map fun path => (⟨clause path ++ [' '], path⟩ : Found (List Char))).foldl
        (fun sql f => replaceFirst f.text [] sql)
        (lead table ++ (syntheticFile ++ (fileClauses paths ++ rest))) =
      lead table ++ (syntheticFile ++ rest) := by
  induction paths with
  | nil => rfl
  | cons path paths ih =>
    obtain ⟨isPath, others⟩ := List.forall_mem_cons.1 h
    rw [List.map_cons, List.foldl_cons, fileClauses_cons, replaceFirst_next word isPath]
    exact ih others

end Replaced

namespace WellFormed

variable (w : WellFormed table paths tail)
include w

theorem table_not_isQuote : ∀ c ∈ table, isQuote c = false := fun c hc => (w.table c hc).2

theorem table_not_isBlank : ∀ c ∈ table, isBlank c = false := fun c hc => (w.table c hc).1

/-- The files of an import are the ones it was made of. -/
theorem files_importOf : Import.files (importOf table paths tail) =
    paths.map fun path => ⟨clause path ++ [' '], path⟩ := by
  have passes : Passes file? (lead table) (fileClauses paths ++ tail) := by
    obtain ⟨first, others, rfl⟩ := List.exists_cons_of_ne_nil w.nonempty
    rw [fileClauses_cons, List.append_assoc]
    exact passes_lead w.table_not_isQuote _ _
  rw [importOf, List.append_assoc, Import.files, passes.scan_append, ← Import.files,
    files_fileClauses w.paths, w.files, List.append_nil]

/-- All clauses of an import become one synthetic clause. -/
theorem replaceFiles_importOf :
    replaceFiles (importOf table paths tail) = lead table ++ (syntheticFile ++ tail) := by
  obtain ⟨first, others, rfl⟩ := List.exists_cons_of_ne_nil w.nonempty
  obtain ⟨isPath, isPaths⟩ := List.forall_mem_cons.1 w.paths
  rw [replaceFiles, w.files_importOf, List.map_cons]
  show List.foldl _ (replaceFirst (clause first ++ [' ']) syntheticFile
    (importOf table (first :: others) tail)) _ = _
  rw [importOf, List.append_assoc, fileClauses_cons, replaceFirst_lead w.table_not_isQuote isPath]
  exact foldl_replaceFirst w.table_not_isQuote isPaths tail

/-- The source of an import becomes the endpoint. -/
theorem redirect_importOf (plain : '\\' ∉ url) :
    redirect (importOf table paths tail) url = .ok (importAt table url tail) := by
  have source (ys : List Char) : localCsv? ("LOCAL CSV".toList ++ ys) = some ys := rfl
  have rest (pieces : List Piece) : substitute localCsv? pieces 0 tail = tail := by
    have passes : Passes localCsv? tail [] := Passes.of_occurs w.marker
    simpa [substitute] using passes.substitute_append
  rw [redirect_of_isImport (isImport_importOf table paths tail) plain, w.replaceFiles_importOf, lead_eq,
    (passes_intoTable w.table_not_isBlank _).substitute_append,
    substitute_append (by decide) (source _), flatMap_render_char, ← List.append_assoc [' '],
    (passes_space_syntheticFile _).substitute_append, rest, importAt_eq, List.append_assoc [' ']]

/-- The import at an endpoint loads no local files. -/
theorem isImport_importAt (unmarked : occurs localCsv? url = false) :
    isImport (importAt table url tail) = false := by
  have none : occurs localCsv? (importAt table url tail) = false := by
    rw [importAt_eq, (passes_intoTable w.table_not_isBlank _).occurs_append,
      (passes_sourceAt unmarked _).occurs_append, ← List.append_assoc,
      (passes_space_syntheticFile _).occurs_append, w.marker]
  exact Bool.eq_false_iff.2 fun h => by simp [occurs_of_isImport h] at none

end WellFormed

/-- An import of the usual form is recognised with its files in order, and is redirected to
an endpoint with one synthetic file; what comes out is no import any more, so that
redirecting it again changes nothing. -/
theorem redirected_import (w : WellFormed table paths tail) (plain : '\\' ∉ url)
    (unmarked : occurs localCsv? url = false) :
    isImport (importOf table paths tail) = true ∧
      (∃ job, Job.ofStatement (String.ofList (importOf table paths tail)) = .ok job ∧
        job.paths = paths.map String.ofList ∧
        job.bindTo (String.ofList url) = .ok { job with
          url := String.ofList url
          redirected := String.ofList (importAt table url tail) }) ∧
      redirect (importOf table paths tail) url = .ok (importAt table url tail) ∧
      isImport (importAt table url tail) = false ∧
      ∀ other, redirect (importAt table url tail) other = .ok (importAt table url tail) := by
  have redirected := w.redirect_importOf plain
  have done := w.isImport_importAt unmarked
  refine ⟨isImport_importOf table paths tail, ⟨{
      sql := importOf table paths tail
      paths := paths.map String.ofList
      separator := rowSeparator (importOf table paths tail) }, ?_, rfl, ?_⟩,
    redirected, done, fun other => ?_⟩
  · rw [Job.ofStatement_eq, w.files_importOf, if_neg (by simpa using w.nonempty), List.map_map]
    rfl
  · rw [Job.bindTo, String.toList_ofList, redirected]
    rfl
  · rw [redirect, done]
    rfl

/-- Two files with the name of the synthetic one, and one whose name is a source. -/
theorem namesakes_redirected :
    WellFormed "T.X_1".toList
        ["data.csv".toList, "FROM LOCAL CSV FILE x".toList, "data.csv".toList] "SKIP = 1".toList ∧
      redirect ("IMPORT INTO T.X_1 FROM LOCAL CSV FILE 'data.csv' ".toList ++
          "FILE 'FROM LOCAL CSV FILE x' FILE 'data.csv' SKIP = 1".toList)
          "http://10.0.0.7:4711".toList =
        .ok ("IMPORT INTO T.X_1 FROM CSV AT 'http://10.0.0.7:4711' ".toList ++
          "FILE 'data.csv' SKIP = 1".toList) := by
  have w : WellFormed "T.X_1".toList
      ["data.csv".toList, "FROM LOCAL CSV FILE x".toList, "data.csv".toList] "SKIP = 1".toList :=
    ⟨forall_mem_of_all (by decide), by decide, by decide, rfl, by decide⟩
  have plain : '\\' ∉ "http://10.0.0.7:4711".toList := by decide
  exact ⟨w, (redirected_import w plain (by decide)).2.2.1⟩

end ExaWire.Import
