/-
ExaWire/Proofs/ConnectionString/Grammar.lean

Which texts are connection strings, what they say, and what is wrong with the others.

A `Sentence` is a host, a port and the parts behind them, and `Writes` says which text it has.
A text with a mark and one colon in its address has a sentence; what stands in the sentence is
looked at from left to right, first the port and then the items (`parse_of_writes`), and the
first thing that cannot be read is what the text is refused for (`verdict`).

Whether it can be read does not depend on the settings so far, so a text is accepted exactly
if each item can be read by itself, and a rearrangement of its items is accepted as well.
-/
import ExaWire.Failure.Name
import ExaWire.Proofs.ConnectionString.Cutting
import ExaWire.Proofs.ConnectionString.Settled

namespace ExaWire.ConnectionString

open Text Config

/-! ### Sentences -/

/-- What a connection string is made of: a host, a port, and the parts between the separators
behind them. -/
structure Sentence where
  host : List Char
  port : List Char
  parts : List (List Char) := []

/-- What may stand behind an address: nothing, or a semicolon and parts. -/
inductive Follows : List (List Char) → List Char → Prop
  | nothing : Follows [] []
  | parts {parts : List (List Char)} {text : List Char} : IsCut parts text → Follows parts (';' :: text)

theorem Follows.begins {parts : List (List Char)} {tail : List Char} (h : Follows parts tail) :
    tail = [] ∨ tail.head? = some ';' := by
  cases h with
  | nothing => exact .inl rfl
  | parts => exact .inr rfl

namespace Sentence

/-- The text is that of the sentence. -/
structure Writes (w : Sentence) (s : String) : Prop where
  host : ':' ∉ w.host
  port : ':' ∉ w.port
  address : ';' ∉ w.host ++ ':' :: w.port
  text : ∃ tail, s.toList = mark ++ (w.host ++ ':' :: w.port) ++ tail ∧ Follows w.parts tail

/-- The parts that are not empty. -/
def items (w : Sentence) : List (List Char) := w.parts.filter (· ≠ [])

/-- The entries of the items. -/
def entries (w : Sentence) : List (String × String) := w.items.filterMap entry?

end Sentence

/-- The item has a key and a value, and a value that is a number if that is what the key asks
for. -/
def IsItem (item : List Char) : Prop :=
  ∃ e, entry? item = some e ∧ ∀ k : NumberKey, e.1 = k.name → (readInt? e.2).isSome = true

/-- The port of the sentence is a number, and all its items can be read. -/
structure Sentence.Valid (w : Sentence) : Prop where
  port : (readInt? (String.ofList w.port)).isSome = true
  items : ∀ item ∈ w.items, IsItem item

/-- Why an item is refused: it has no equals sign, or a value that is not the number that its
key asks for. -/
inductive Faulty (item : List Char) : Refusal → Prop
  | bare : '=' ∉ item → Faulty item (.item (String.ofList item))
  | number {e : String × String} (k : NumberKey) :
      entry? item = some e → e.1 = k.name → readInt? e.2 = none → Faulty item (.number e.1 e.2)

/-- The outcomes of reading a text: settings, or what is wrong with the first thing that cannot
be read. -/
inductive Verdict (s : String) : Except Refusal Config → Prop
  | unmarked : ¬ mark <+: s.toList → Verdict s (.error (.unmarked s))
  | address {address tail : List Char} :
      s.toList = mark ++ address ++ tail → ';' ∉ address → tail = [] ∨ tail.head? = some ';' →
      address.count ':' ≠ 1 → Verdict s (.error (.address (String.ofList address)))
  | port {w : Sentence} :
      w.Writes s → readInt? (String.ofList w.port) = none →
      Verdict s (.error (.port (String.ofList w.port)))
  | item {w : Sentence} {before behind : List (List Char)} {item : List Char} {r : Refusal} :
      w.Writes s → (readInt? (String.ofList w.port)).isSome = true →
      w.items = before ++ item :: behind → (∀ i ∈ before, IsItem i) → Faulty item r →
      Verdict s (.error r)
  | settings {w : Sentence} {c : Config} :
      w.Writes s → w.Valid → Verdict s (.ok c)

/-! ### One item -/

theorem entry?_eq_none_iff {item : List Char} : entry? item = none ↔ '=' ∉ item := by
  unfold entry?
  rw [Option.map_eq_none_iff, cut?_eq_none_iff]

/-- An item that can be read is assigned, whatever the settings so far. -/
theorem apply_ok_iff {c : Config} {item : List Char} :
    (∃ d, apply c item = .ok d) ↔ IsItem item := by
  rw [apply_eq]
  unfold IsItem
  cases entry? item with
  | none =>
    constructor
    · rintro ⟨d, assigned⟩
      cases assigned
    · rintro ⟨e, read, -⟩
      cases read
  | some e =>
    show (∃ d, assign c e.1 e.2 = .ok d) ↔ _
    rw [assign_ok_iff]
    constructor
    · intro numbers
      exact ⟨e, rfl, numbers⟩
    · rintro ⟨e', same, numbers⟩
      obtain rfl := Option.some.inj same
      exact numbers

theorem faulty_of_apply {c : Config} {item : List Char} {r : Refusal}
    (h : apply c item = .error r) : Faulty item r := by
  rw [apply_eq] at h
  cases read : entry? item with
  | none =>
    rw [read] at h
    cases h
    exact .bare (entry?_eq_none_iff.1 read)
  | some e =>
    rw [read] at h
    obtain ⟨k, named, unread, rfl⟩ := assign_error h
    exact .number k read named unread

theorem Faulty.not_isItem {item : List Char} {r : Refusal} (h : Faulty item r) : ¬ IsItem item := by
  rintro ⟨e, read, numbers⟩
  cases h with
  | bare bare =>
    rw [entry?_eq_none_iff.2 bare] at read
    cases read
  | number k read' named unread =>
    obtain rfl := Option.some.inj (read'.symm.trans read)
    exact absurd (numbers k named) (by simp [unread])

/-! ### All items -/

/-- The outcome of reading items one after the other. -/
inductive Reading (c : Config) (items : List (List Char)) : Except Refusal Config → Prop
  | settled {d : Config} :
      (∀ item ∈ items, IsItem item) → assignAll c (items.filterMap entry?) = .ok d →
      Reading c items (.ok d)
  | refused {before behind : List (List Char)} {item : List Char} {r : Refusal} :
      items = before ++ item :: behind → (∀ i ∈ before, IsItem i) → Faulty item r →
      Reading c items (.error r)

theorem reading (c : Config) (items : List (List Char)) : Reading c items (items.foldlM apply c) := by
  induction items generalizing c with
  | nil => exact .settled (List.forall_mem_nil _) rfl
  | cons item items ih =>
    rw [List.foldlM_cons]
    cases first : apply c item with
    | error r => exact .refused (List.nil_append _).symm (List.forall_mem_nil _) (faulty_of_apply first)
    | ok c' =>
      have readable : IsItem item := apply_ok_iff.1 ⟨c', first⟩
      show Reading c (item :: items) (items.foldlM apply c')
      have rest := ih c'
      generalize items.foldlM apply c' = result at rest
      cases rest with
      | @settled d hitems assigned =>
        obtain ⟨e, read, numbers⟩ := readable
        have assign : assign c e.1 e.2 = .ok c' := by
          rw [apply_eq, read] at first
          exact first
        refine .settled (List.forall_mem_cons.2 ⟨⟨e, read, numbers⟩, hitems⟩) ?_
        rw [List.filterMap_cons_some read, assignAll_cons assign]
        exact assigned
      | @refused before behind other r split hbefore faulty =>
        have longer : item :: items = (item :: before) ++ other :: behind := by rw [split, List.cons_append]
        exact .refused longer (List.forall_mem_cons.2 ⟨readable, hbefore⟩) faulty

/-! ### The address -/

theorem readAddress_of_count {address : List Char} (h : address.count ':' ≠ 1) :
    readAddress address = .error (.address (String.ofList address)) := by
  unfold readAddress
  split
  · next parts =>
    have two := length_splitOn ':' address
    rw [parts] at two
    exact absurd (Nat.succ.inj two).symm h
  · rfl

theorem readAddress_eq {host port : List Char} (hhost : ':' ∉ host) (hport : ':' ∉ port) :
    readAddress (host ++ ':' :: port) = match readInt? (String.ofList port) with
      | some n => .ok (String.ofList host, n)
      | none => .error (.port (String.ofList port)) := by
  have parts : splitOn ':' (host ++ ':' :: port) = [host, port] := by
    rw [splitOn_append hhost, splitOn_of_notMem hport]
  unfold readAddress
  generalize splitOn ':' (host ++ ':' :: port) = found at parts ⊢
  subst parts
  rfl

/-- With one colon, an address falls into a host and a port. -/
theorem exists_host_port {address : List Char} (h : address.count ':' = 1) :
    ∃ host port, address = host ++ ':' :: port ∧ ':' ∉ host ∧ ':' ∉ port := by
  have mem : ':' ∈ address := List.count_pos_iff.1 (h ▸ Nat.one_pos)
  obtain ⟨host, port, rfl, hhost⟩ := List.eq_append_cons_of_mem mem
  refine ⟨host, port, rfl, hhost, ?_⟩
  rw [List.count_append, List.count_cons_self, List.count_eq_zero.2 hhost] at h
  exact List.count_eq_zero.1 (by omega)

/-! ### The whole text -/

variable {s : String}

/-- Behind the mark, a text is an address up to the first semicolon and what follows it. -/
theorem parse_of_mark {address tail : List Char} (text : s.toList = mark ++ address ++ tail)
    (closed : ';' ∉ address) (follows : tail = [] ∨ tail.head? = some ';') :
    parse s = match readAddress address with
      | .error r => .error r
      | .ok (host, port) => (split (tail.drop 1)).foldlM apply { host, port } := by
  unfold parse
  rw [text, List.append_assoc, after?_append]
  cases tail with
  | nil =>
    simp only [List.append_nil, cut?_eq_none_iff.2 closed]
    rfl
  | cons c more =>
    have semicolon : c = ';' := by simpa using follows
    simp only [semicolon, cut?_append closed]
    rfl

theorem split_of_follows {parts : List (List Char)} {tail : List Char} (h : Follows parts tail)
    (plain : placeholder ∉ tail) : split (tail.drop 1) = parts.filter (· ≠ []) := by
  cases h with
  | nothing => rfl
  | @parts _ text cut =>
    have absent := cut.notMem fun mem => plain (List.mem_cons_of_mem _ mem)
    show split text = _
    rw [cut.split_eq]
    refine (List.map_congr_left fun part hpart => ?_).trans (List.map_id _)
    exact replaceOne_of_notMem (absent part (List.mem_filter.1 hpart).1)

/-- What a sentence says is read from left to right: its port, and then its items. -/
theorem parse_of_writes {w : Sentence} (h : w.Writes s) (plain : placeholder ∉ s.toList) :
    parse s = match readInt? (String.ofList w.port) with
      | none => .error (.port (String.ofList w.port))
      | some n => w.items.foldlM apply { host := String.ofList w.host, port := n } := by
  obtain ⟨tail, text, follows⟩ := h.text
  have absent : placeholder ∉ tail := fun mem => plain (text ▸ List.mem_append_right _ mem)
  rw [parse_of_mark text h.address follows.begins, readAddress_eq h.host h.port,
    split_of_follows follows absent]
  cases readInt? (String.ofList w.port) <;> rfl

theorem exists_follows (tail : List Char) (h : tail = [] ∨ tail.head? = some ';') :
    ∃ parts, Follows parts tail := by
  cases tail with
  | nil => exact ⟨[], .nothing⟩
  | cons c more =>
    obtain rfl : c = ';' := by simpa using h
    obtain ⟨parts, cut⟩ := exists_isCut more
    exact ⟨parts, .parts cut⟩

/-- Up to its first semicolon, a list is closed. -/
theorem exists_closed (rest : List Char) :
    ∃ address tail, rest = address ++ tail ∧ ';' ∉ address ∧ (tail = [] ∨ tail.head? = some ';') := by
  by_cases h : ';' ∈ rest
  · obtain ⟨address, more, e, closed⟩ := List.eq_append_cons_of_mem h
    exact ⟨address, ';' :: more, e, closed, .inr rfl⟩
  · exact ⟨rest, [], (List.append_nil rest).symm, h, .inl rfl⟩

/-- Every text is read, or refused for the first thing in it that cannot be read. -/
theorem verdict (plain : placeholder ∉ s.toList) : Verdict s (parse s) := by
  by_cases marked : mark <+: s.toList
  · obtain ⟨rest, marked⟩ := marked
    obtain ⟨address, tail, rfl, closed, begins⟩ := exists_closed rest
    have text : s.toList = mark ++ address ++ tail := by rw [← marked, List.append_assoc]
    by_cases colons : address.count ':' = 1
    · obtain ⟨host, port, rfl, hhost, hport⟩ := exists_host_port colons
      obtain ⟨parts, follows⟩ := exists_follows tail begins
      have writes : Sentence.Writes ⟨host, port, parts⟩ s := ⟨hhost, hport, closed, tail, text, follows⟩
      rw [parse_of_writes writes plain]
      cases number : readInt? (String.ofList port) with
      | none => exact .port writes number
      | some n =>
        have numbered : (readInt? (String.ofList port)).isSome = true := by rw [number]; rfl
        have outcome := reading { host := String.ofList host, port := n } (Sentence.items ⟨host, port, parts⟩)
        show Verdict s (List.foldlM apply _ _)
        generalize List.foldlM apply _ _ = result at outcome
        cases outcome with
        | settled readable _ => exact .settings writes ⟨numbered, readable⟩
        | refused split hbefore faulty => exact .item writes numbered split hbefore faulty
    · rw [parse_of_mark text closed begins, readAddress_of_count colons]
      exact .address text closed begins colons
  · have unmarked : after? mark s.toList = none := by
      cases found : after? mark s.toList with
      | none => rfl
      | some rest => exact absurd ⟨rest, (after?_eq_some_iff.1 found).symm⟩ marked
    have refused : parse s = .error (.unmarked s) := by
      unfold parse
      rw [unmarked]
    rw [refused]
    exact .unmarked marked

/-! ### Acceptance -/

/-- A text whose sentence can be read has settings. -/
theorem parse_of_valid {w : Sentence} (h : w.Writes s) (valid : w.Valid)
    (plain : placeholder ∉ s.toList) : ∃ c, parse s = .ok c := by
  obtain ⟨n, number⟩ := Option.isSome_iff_exists.1 valid.port
  have outcome := reading { host := String.ofList w.host, port := n } w.items
  rw [parse_of_writes h plain, number]
  show ∃ c, w.items.foldlM apply _ = .ok c
  generalize w.items.foldlM apply _ = result at outcome
  cases outcome with
  | settled => exact ⟨_, rfl⟩
  | @refused before behind item r split _ faulty =>
    have mem : item ∈ w.items := split ▸ List.mem_append_right _ List.mem_cons_self
    exact absurd (valid.items item mem) faulty.not_isItem

/-- The settings of a text are those that its sentence says, which therefore can be read. -/
theorem settled_of_parse {w : Sentence} {c : Config} (h : w.Writes s)
    (plain : placeholder ∉ s.toList) (parsed : parse s = .ok c) :
    w.Valid ∧ ∃ n, readInt? (String.ofList w.port) = some n ∧
      Settled (String.ofList w.host) n w.entries c := by
  rw [parse_of_writes h plain] at parsed
  cases number : readInt? (String.ofList w.port) with
  | none =>
    rw [number] at parsed
    cases parsed
  | some n =>
    rw [number] at parsed
    have outcome := reading { host := String.ofList w.host, port := n } w.items
    rw [show w.items.foldlM apply _ = .ok c from parsed] at outcome
    cases outcome with
    | settled readable assigned =>
      have settled := (settled_nil (String.ofList w.host) n).assignAll assigned
      rw [List.nil_append] at settled
      exact ⟨⟨by rw [number]; rfl, readable⟩, n, rfl, settled⟩

theorem exists_writes_of_parse {c : Config} (plain : placeholder ∉ s.toList)
    (parsed : parse s = .ok c) : ∃ w : Sentence, w.Writes s ∧ w.Valid := by
  have outcome := verdict plain
  rw [parsed] at outcome
  cases outcome with
  | settings writes valid => exact ⟨_, writes, valid⟩

/-- Sentences with the same address and the same items, of different keys and in whatever
order, come to the same settings. -/
theorem parse_of_perm {t : String} {w v : Sentence} {c : Config} (hw : w.Writes s) (hv : v.Writes t)
    (plain : placeholder ∉ s.toList) (plain' : placeholder ∉ t.toList) (host : v.host = w.host)
    (port : v.port = w.port) (perm : w.items.Perm v.items)
    (distinct : (w.entries.map Prod.fst).Nodup) (parsed : parse s = .ok c) :
    ∃ d, parse t = .ok d ∧ same c d = true := by
  obtain ⟨valid, n, number, settled⟩ := settled_of_parse hw plain parsed
  have valid' : v.Valid := by
    refine ⟨port ▸ valid.port, fun item mem => valid.items item (perm.mem_iff.2 mem)⟩
  obtain ⟨d, parsed'⟩ := parse_of_valid hv valid' plain'
  obtain ⟨-, m, number', settled'⟩ := settled_of_parse hv plain' parsed'
  rw [port, number] at number'
  obtain rfl := Option.some.inj number'
  rw [host] at settled'
  exact ⟨d, parsed', settled.same settled' (last_eq_of_perm (perm.filterMap entry?) distinct)⟩

/-- A text is a connection string exactly if it is that of a sentence that can be read, and its
settings are then what the last entry of each key says.  Any other text is refused with the
failure for connection strings, and for the first thing in it that cannot be read.  Items of
different keys may be arranged in any order. -/
theorem parse_by_grammar (plain : placeholder ∉ s.toList) :
    ((∃ c, parse s = .ok c) ↔ ∃ w : Sentence, w.Writes s ∧ w.Valid) ∧
      (∀ c, parse s = .ok c → ∀ w : Sentence, w.Writes s →
        ∃ n, readInt? (String.ofList w.port) = some n ∧
          Settled (String.ofList w.host) n w.entries c) ∧
      (∀ r, parse s = .error r →
        r.failure.name? = some "InvalidConnectionString" ∧ Verdict s (.error r)) ∧
      (∀ (c : Config) (t : String) (w v : Sentence), parse s = .ok c → placeholder ∉ t.toList →
        w.Writes s → v.Writes t → v.host = w.host → v.port = w.port → w.items.Perm v.items →
        (w.entries.map Prod.fst).Nodup → ∃ d, parse t = .ok d ∧ same c d = true) := by
  refine ⟨⟨?accepted, ?accepts⟩, ?settled, ?refused, ?arranged⟩
  case accepted =>
    rintro ⟨c, parsed⟩
    exact exists_writes_of_parse plain parsed
  case accepts =>
    rintro ⟨w, writes, valid⟩
    exact parse_of_valid writes valid plain
  case settled =>
    intro c parsed w writes
    exact (settled_of_parse writes plain parsed).2
  case refused =>
    intro r parsed
    have outcome := verdict plain
    rw [parsed] at outcome
    exact ⟨rfl, outcome⟩
  case arranged =>
    intro c t w v parsed plain' writes writes' host port perm distinct
    exact parse_of_perm writes writes' plain plain' host port perm distinct parsed

/-- A text with an escaped separator, an empty item and an empty key, and the same items the
other way round; and a text with two items that cannot be read, of which the first one is told. -/
theorem backwards_by_grammar :
    let s := "exa:db: 85_63 ;;user=a\\;b=c;fetchsize=-7;=x"
    let t := "exa:db: 85_63 ;=x;fetchsize=-7;user=a\\;b=c;"
    let host := "db".toList
    let port := " 85_63 ".toList
    let w : Sentence := ⟨host, port, [[], "user=a\\;b=c".toList, "fetchsize=-7".toList, "=x".toList]⟩
    let v : Sentence := ⟨host, port, ["=x".toList, "fetchsize=-7".toList, "user=a\\;b=c".toList, []]⟩
    (placeholder ∉ s.toList ∧ placeholder ∉ t.toList ∧ w.Writes s ∧ v.Writes t) ∧
      (∃ c d, parse s = .ok c ∧ Settled "db" 8563 w.entries c ∧ c.user = "a;b=c" ∧
        parse t = .ok d ∧ same c d = true) ∧
      ∃ r, parse "exa:db:1;user;fetchsize=x" = .error r ∧
        r.failure.name? = some "InvalidConnectionString" := by
  intro s t host port w v
  have plain : placeholder ∉ s.toList := by decide
  have plain' : placeholder ∉ t.toList := by decide
  have writes : w.Writes s :=
    ⟨by decide, by decide, by decide, _, by decide,
      .parts (.cons (by decide) (by decide) (.cons (by decide) (by decide)
        (.cons (by decide) (by decide) (.last (by decide)))))⟩
  have writes' : v.Writes t :=
    ⟨by decide, by decide, by decide, _, by decide,
      .parts (.cons (by decide) (by decide) (.cons (by decide) (by decide)
        (.cons (by decide) (by decide) (.last (by decide)))))⟩
  obtain ⟨-, settled, -, arranged⟩ := parse_by_grammar plain
  have parsed : parse "exa:db: 85_63 ;;user=a\\;b=c;fetchsize=-7;=x" = .ok
    { host := "db", port := 8563, user := "a;b=c", fetchSize := -7, params := [("", "x")] } := rfl
  obtain ⟨n, number, settled⟩ := settled _ parsed w writes
  obtain ⟨d, parsed', same⟩ := arranged _ t w v parsed plain' writes writes' rfl rfl (by decide) (by decide)
  obtain rfl : n = 8563 := Option.some.inj (number.symm.trans (by decide))
  obtain ⟨-, -, refused, -⟩ := parse_by_grammar (s := "exa:db:1;user;fetchsize=x") (by decide)
  exact ⟨⟨plain, plain', writes, writes'⟩, ⟨_, d, parsed, settled, rfl, parsed', same⟩, _, rfl,
    (refused _ rfl).1⟩

/-- Of several items with one key the last one counts. -/
example : parse "exa:db:1;user=a;k=1;user=b;k=;autocommit=true" =
    .ok { host := "db", port := 1, user := "b", autocommit := false, params := [("k", "")] } := rfl

end ExaWire.ConnectionString
