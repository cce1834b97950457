/-
ExaWire/Proofs/ConnectionString/RoundTrip.lean

Settings written as a connection string and read back.

`format` writes the settings as entries in four groups and then the further parameters;
`parse` starts from the host, the port and the defaults and assigns the entries one after
the other.  What was left out is what the defaults say, so each group takes the settings
read so far a step nearer to those that were written, and nothing is missing in the end.

Of the conditions in `Carried` none can be spared: a text at the end of an item must not end
in a backslash, the name of the client and the size of a fetch have defaults of their own,
and one kind of credentials hides the others.  What is left is the number of digits:
settings are read back exactly if all their numbers can be written, and if not, nothing is.
-/
import ExaWire.Proofs.ConnectionString.Neighbours

namespace ExaWire.ConnectionString

open Text Config

/-! ### What a connection string carries -/

/-- A text that keeps to itself as the value of an item. -/
structure Tame (s : String) : Prop where
  placeholder : placeholder ∉ s.toList
  ending : s.toList.getLast? ≠ some '\\'

/-- A key that stands for itself in an item, and for a further parameter. -/
structure IsFurther (key : String) : Prop where
  further : key ∉ ownKeys
  equals : '=' ∉ key.toList
  separator : ';' ∉ key.toList
  placeholder : placeholder ∉ key.toList

/-- Settings that a connection string carries. -/
structure Carried (c : Config) : Prop where
  hostColon : ':' ∉ c.host.toList
  hostSemicolon : ';' ∉ c.host.toList
  clientName : c.clientName ≠ ""
  fetchSize : c.fetchSize ≠ 0
  oneToken : c.accessToken = "" ∨ c.refreshToken = ""
  tokenAlone : c.usesToken = true → c.user = "" ∧ c.password = ""
  texts : ∀ k, Tame (c.text k)
  keys : ∀ p ∈ c.params, IsFurther p.1
  values : ∀ p ∈ c.params, Tame p.2
  /-- further parameters are a map -/
  distinct : (c.params.map (·.1)).Nodup

/-! ### Entries -/

/-- The entries that carry the credentials. -/
def credentials (c : Config) : List (String × String) :=
  if c.accessToken ≠ "" then [(TextKey.accessToken.name, c.accessToken)]
  else if c.refreshToken ≠ "" then [(TextKey.refreshToken.name, c.refreshToken)]
  else [(TextKey.user.name, c.user), (TextKey.password.name, c.password)]

/-- The entry of a flag. -/
def flagPair? (c : Config) (k : FlagKey) : Option (String × String) :=
  some (k.name, flagText (c.flag k))

/-- The entry of a number that is not zero. -/
def numberPair? (c : Config) (k : NumberKey) : Option (String × String) :=
  if c.number k = 0 then none else some (k.name, toString (c.number k))

/-- The entry of a text that is not empty. -/
def textPair? (c : Config) (k : TextKey) : Option (String × String) :=
  if c.text k = "" then none else some (k.name, c.text k)

/-- All entries of settings, as they are written. -/
def entries (c : Config) : List (String × String) :=
  credentials c ++ (FlagKey.all.filterMap (flagPair? c) ++ (NumberKey.all.filterMap (numberPair? c) ++
    (writtenTexts.filterMap (textPair? c) ++ c.params)))

theorem itemsOf_append (front more : List (String × String)) :
    itemsOf (front ++ more) = itemsOf front ++ itemsOf more := List.map_append

theorem itemsOf_filterMap {κ : Type} {item? : κ → Option (List Char)}
    {pair? : κ → Option (String × String)} (h : ∀ k, item? k = (pair? k).map fun e => item e.1 e.2)
    (ks : List κ) : itemsOf (ks.filterMap pair?) = ks.filterMap item? := by
  rw [itemsOf, List.map_filterMap]
  exact congrArg (ks.filterMap ·) (funext fun k => (h k).symm)

theorem item_flagText (key : String) (b : Bool) :
    item key (flagText b) = key.toList ++ '=' :: [if b then '1' else '0'] := by
  cases b <;> rfl

theorem item_toString (key : String) (n : Int) :
    item key (toString n) = key.toList ++ '=' :: (toString n).toList := by
  rw [item, escape_of_notMem (notMem_toString (by decide) (by decide))]

/-- The items of settings are those of their entries. -/
theorem items_eq (c : Config) : items c = itemsOf (entries c) := by
  have flags : itemsOf (FlagKey.all.filterMap (flagPair? c)) = FlagKey.all.map (flagItem c) := by
    rw [← List.filterMap_eq_map]
    exact itemsOf_filterMap (fun k => by
      rw [flagPair?, Option.map_some, item_flagText]
      rfl) _
  have numbers : itemsOf (NumberKey.all.filterMap (numberPair? c)) =
      NumberKey.all.filterMap (numberItem? c) := by
    refine itemsOf_filterMap (fun k => ?_) _
    unfold numberItem? numberPair?
    split
    · rfl
    · rw [Option.map_some, item_toString]
  have texts : itemsOf (writtenTexts.filterMap (textPair? c)) =
      writtenTexts.filterMap (textItem? c) := by
    refine itemsOf_filterMap (fun k => ?_) _
    unfold textItem? textPair?
    split <;> rfl
  have given : itemsOf (credentials c) = credentialItems c := by
    unfold credentials credentialItems
    split
    · rfl
    · split <;> rfl
  rw [entries, itemsOf_append, itemsOf_append, itemsOf_append, itemsOf_append, given, flags, numbers,
    texts]
  simp only [items, List.append_assoc]
  rfl

/-! ### Every entry fits -/

theorem fits_text (k : TextKey) {value : String} (h : Tame value) : Fits k.name value := by
  have key : '=' ∉ k.name.toList ∧ ';' ∉ k.name.toList ∧ placeholder ∉ k.name.toList := by
    cases k <;> decide
  exact ⟨key.1, key.2.1, key.2.2, h.placeholder, h.ending⟩

theorem fits_flag (k : FlagKey) (b : Bool) : Fits k.name (flagText b) := by
  have key : '=' ∉ k.name.toList ∧ ';' ∉ k.name.toList ∧ placeholder ∉ k.name.toList := by
    cases k <;> decide
  have value : placeholder ∉ (flagText b).toList ∧ (flagText b).toList.getLast? ≠ some '\\' := by
    cases b <;> decide
  exact ⟨key.1, key.2.1, key.2.2, value.1, value.2⟩

theorem fits_number (k : NumberKey) (n : Int) : Fits k.name (toString n) := by
  have key : '=' ∉ k.name.toList ∧ ';' ∉ k.name.toList ∧ placeholder ∉ k.name.toList := by
    cases k <;> decide
  refine ⟨key.1, key.2.1, key.2.2, notMem_toString (by decide) (by decide), fun e => ?_⟩
  exact notMem_toString (by decide) (by decide) (List.mem_of_getLast? e)

theorem fits_entries {c : Config} (h : Carried c) : ∀ e ∈ entries c, Fits e.1 e.2 := by
  intro e he
  simp only [entries, List.mem_append, List.mem_filterMap] at he
  rcases he with given | ⟨k, -, hk⟩ | ⟨k, -, hk⟩ | ⟨k, -, hk⟩ | further
  · unfold credentials at given
    split at given
    · obtain rfl := List.mem_singleton.1 given
      exact fits_text .accessToken (h.texts .accessToken)
    · split at given
      · obtain rfl := List.mem_singleton.1 given
        exact fits_text .refreshToken (h.texts .refreshToken)
      · simp only [List.mem_cons, List.not_mem_nil, or_false] at given
        rcases given with rfl | rfl
        · exact fits_text .user (h.texts .user)
        · exact fits_text .password (h.texts .password)
  · cases hk
    exact fits_flag k _
  · unfold numberPair? at hk
    split at hk
    · cases hk
    · cases hk
      exact fits_number k _
  · unfold textPair? at hk
    split at hk
    · cases hk
    · cases hk
      exact fits_text k (h.texts k)
  · have key := h.keys e further
    have value := h.values e further
    exact ⟨key.equals, key.separator, key.placeholder, value.placeholder, value.ending⟩

/-! ### Every entry is assigned -/

/-- Settings that may be left out are all taken over, if what is left out is the default. -/
theorem assignAll_filterMap {κ : Type} {pair? : κ → Option (String × String)}
    {set : κ → Config → Config} {R : Config → Prop} (ks : List κ)
    (step : ∀ k ∈ ks, ∀ d, R d →
      assignAll d (pair? k).toList = .ok (set k d) ∧ R (set k d)) {d : Config} (ready : R d) :
    assignAll d (ks.filterMap pair?) = .ok (ks.foldl (fun d k => set k d) d) := by
  induction ks generalizing d with
  | nil => rfl
  | cons k ks ih =>
    obtain ⟨hk, hks⟩ := List.forall_mem_cons.1 step
    obtain ⟨assigned, ready'⟩ := hk d ready
    have first : (k :: ks).filterMap pair? = (pair? k).toList ++ ks.filterMap pair? := by
      rw [List.filterMap_cons]
      cases pair? k <;> rfl
    rw [first, assignAll_append assigned, ih hks ready']
    rfl

/-- The credentials taken over from other settings. -/
def withCredentials (c d : Config) : Config :=
  { d with
    user := c.user, password := c.password
    accessToken := c.accessToken, refreshToken := c.refreshToken }

/-- The flags taken over. -/
def withFlags (c d : Config) : Config :=
  { d with
    autocommit := c.autocommit, encryption := c.encryption, compression := c.compression
    validateServerCertificate := c.validateServerCertificate }

/-- The numbers taken over. -/
def withNumbers (c d : Config) : Config :=
  { d with
    fetchSize := c.fetchSize, queryTimeout := c.queryTimeout
    resultSetMaxRows := c.resultSetMaxRows }

/-- The texts taken over that are no credentials. -/
def withTexts (c d : Config) : Config :=
  { d with
    certificateFingerprint := c.certificateFingerprint, clientName := c.clientName
    clientVersion := c.clientVersion, schema := c.schema, urlPath := c.urlPath }

theorem assignAll_credentials {c : Config} (h : Carried c) (host : String) (port : Int) :
    assignAll { host, port } (credentials c) = .ok (withCredentials c { host, port }) := by
  unfold credentials withCredentials
  split
  · next access =>
    have alone := h.tokenAlone (by simp [usesToken, access])
    rw [alone.1, alone.2, h.oneToken.resolve_left access]
    exact assignAll_cons (assign_text _ _ .accessToken)
  · next noAccess =>
    have none : c.accessToken = "" := by simpa using noAccess
    split
    · next refresh =>
      have alone := h.tokenAlone (by simp [usesToken, refresh])
      rw [alone.1, alone.2, none]
      exact assignAll_cons (assign_text _ _ .refreshToken)
    · next noRefresh =>
      have none' : c.refreshToken = "" := by simpa using noRefresh
      rw [none, none', assignAll_cons (assign_text _ _ .user)]
      exact assignAll_cons (assign_text _ _ .password)

theorem assignAll_flags (c d : Config) :
    assignAll d (FlagKey.all.filterMap (flagPair? c)) = .ok (withFlags c d) := by
  show _ = Except.ok (FlagKey.all.foldl (fun d k => d.setFlag (c.flag k) k) d)
  refine assignAll_filterMap (R := fun _ => True) _ (fun k _ d _ => ⟨?_, trivial⟩) trivial
  exact assignAll_cons (assign_flag d (c.flag k) k)

/-- Numbers that settings have yet to take over: those left out are zero already. -/
theorem assignAll_numbers {c d : Config} (written : ∀ k, isWritable (c.number k) = true)
    (zero : ∀ k, c.number k = 0 → d.number k = 0) :
    assignAll d (NumberKey.all.filterMap (numberPair? c)) = .ok (withNumbers c d) := by
  show _ = Except.ok (NumberKey.all.foldl (fun d k => d.setNumber (c.number k) k) d)
  refine assignAll_filterMap (R := fun d => ∀ k, c.number k = 0 → d.number k = 0) _
    (fun k _ d ready => ⟨?_, fun k' hk' => ?_⟩) zero
  · unfold numberPair?
    split
    · next left =>
      have same : d.setNumber (c.number k) k = d := by
        rw [left, ← ready k left]
        cases k <;> rfl
      rw [same]
      rfl
    · exact assignAll_cons (assign_number (written k) d k)
  · -- a number that was taken over is the number that was written
    by_cases e : k' = k
    · rw [e, ← hk', e]
      cases k <;> rfl
    · rw [← ready k' hk']
      cases k <;> cases k' <;> first | rfl | exact absurd rfl e

theorem assignAll_texts {c d : Config} (empty : ∀ k ∈ writtenTexts, c.text k = "" → d.text k = "") :
    assignAll d (writtenTexts.filterMap (textPair? c)) = .ok (withTexts c d) := by
  show _ = Except.ok (writtenTexts.foldl (fun d k => d.setText (c.text k) k) d)
  refine assignAll_filterMap (R := fun d => ∀ k ∈ writtenTexts, c.text k = "" → d.text k = "") _
    (fun k hk d ready => ⟨?_, fun k' hk' none => ?_⟩) empty
  · unfold textPair?
    split
    · next left =>
      have same : d.setText (c.text k) k = d := by
        rw [left, ← ready k hk left]
        cases k <;> rfl
      rw [same]
      rfl
    · exact assignAll_cons (assign_text d (c.text k) k)
  · by_cases e : k' = k
    · rw [e, ← none, e]
      cases k <;> rfl
    · rw [← ready k' hk' none]
      cases k <;> cases k' <;> first | rfl | exact absurd rfl e

/-- Assigned one after the other, the entries of settings give the settings. -/
theorem assignAll_entries {c : Config} (h : Carried c) (written : ∀ k, isWritable (c.number k) = true) :
    assignAll { host := c.host, port := c.port } (entries c) = .ok c := by
  let credited := withCredentials c { host := c.host, port := c.port }
  let flagged := withFlags c credited
  let numbered := withNumbers c flagged
  let texted := withTexts c numbered
  have numbers : assignAll flagged (NumberKey.all.filterMap (numberPair? c)) = .ok numbered := by
    refine assignAll_numbers written ?_
    rintro (_ | _ | _) hk
    · exact absurd hk h.fetchSize
    · rfl
    · rfl
  have texts : assignAll numbered (writtenTexts.filterMap (textPair? c)) = .ok texted := by
    refine assignAll_texts ?_
    rintro (_ | _ | _ | _ | _ | _ | _ | _ | _) hk none
    case clientName => exact absurd none h.clientName
    all_goals first | rfl | simp [writtenTexts] at hk
  -- no parameter has been given so far
  have apart : ((texted.params ++ c.params).map (·.1)).Nodup := h.distinct
  rw [entries, assignAll_append (assignAll_credentials h c.host c.port),
    assignAll_append (assignAll_flags c credited), assignAll_append numbers, assignAll_append texts,
    assignAll_params (fun p hp => (h.keys p hp).further) texted apart]
  rfl

/-! ### The whole string -/

theorem readAddress_append {host : String} (colon : ':' ∉ host.toList) {port : Int}
    (h : isWritable port = true) :
    readAddress (host.toList ++ ':' :: (toString port).toList) = .ok (host, port) := by
  have noColon : ':' ∉ (toString port).toList := notMem_toString (by decide) (by decide)
  unfold readAddress
  rw [splitOn_append colon, splitOn_of_notMem noColon]
  simp only [String.ofList_toList, readInt?_toString h]

theorem writable_iff {c : Config} :
    writable c = true ↔ isWritable c.port = true ∧ ∀ k, isWritable (c.number k) = true := by
  have all : ∀ k : NumberKey, k ∈ NumberKey.all := by
    rintro (_ | _ | _) <;> simp [NumberKey.all]
  simp only [writable, Bool.and_eq_true, List.all_eq_true]
  exact and_congr_right' ⟨fun h k => h k (all k), fun h k _ => h k⟩

theorem format_of_writable {c : Config} (h : writable c = true) :
    format c = .ok (String.ofList (joinWith [';']
      ((mark ++ c.host.toList ++ ':' :: (toString c.port).toList) :: items c))) := by
  rw [format, if_pos h]

theorem format_of_not_writable {c : Config} (h : ¬ writable c = true) :
    format c = .error (.fault .badValue) := by
  rw [format, if_neg h]
  rfl

/-- Settings that a connection string carries are read back from it, all of them, if only there is a
string: one is written unless a number has more digits than any number can be written with. -/
theorem parse_format {c : Config} (h : Carried c) :
    ((∃ s, format c = .ok s ∧ parse s = .ok c) ↔
      isWritable c.port = true ∧ ∀ k, isWritable (c.number k) = true) ∧
    (¬ (isWritable c.port = true ∧ ∀ k, isWritable (c.number k) = true) →
      format c = .error (.fault .badValue)) := by
  rw [← writable_iff]
  refine ⟨⟨?_, ?_⟩, format_of_not_writable⟩
  · rintro ⟨s, written, -⟩
    cases hw : writable c with
    | true => rfl
    | false => cases written.symm.trans (format_of_not_writable (ne_true_of_eq_false hw))
  · intro written
    obtain ⟨port, numbers⟩ := writable_iff.1 written
    refine ⟨_, format_of_writable written, ?_⟩
    have some : items c ≠ [] := by simp [items, FlagKey.all]
    have noSemicolon : ';' ∉ c.host.toList ++ ':' :: (toString c.port).toList := by
      have port : ';' ∉ (toString c.port).toList := notMem_toString (by decide) (by decide)
      rw [List.mem_append, List.mem_cons]
      rintro (host | semicolon | digit)
      · exact h.hostSemicolon host
      · cases semicolon
      · exact port digit
    have fits := fits_entries h
    have settings : (split (joinWith [';'] (items c))).foldlM apply { host := c.host, port := c.port } =
        .ok c := by
      rw [items_eq, split_joinWith fits, foldlM_apply fits, assignAll_entries h numbers]
    unfold parse
    rw [String.toList_ofList, joinWith_cons _ _ some, List.append_assoc, List.append_assoc mark,
      List.append_assoc mark, after?_append]
    simp only [List.singleton_append, cut?_append noSemicolon, Option.getD_some,
      readAddress_append h.hostColon port]
    exact settings

/-- Settings whose texts are full of what has a meaning in a connection string. -/
def awkward : Config where
  host := "db1..3,\\other\\"
  port := -8563
  user := "a=b;c"
  password := ";p\\;w\\\\;;x"
  clientName := ";"
  schema := "exa:;user=x"
  autocommit := false
  fetchSize := -1
  compression := true
  resultSetMaxRows := 1000000000000000000000
  certificateFingerprint := "=\\="
  params := [("", ";"), ("User", ""), ("key\\", "=;\\;=")]

theorem awkward_carried : Carried awkward where
  hostColon := by decide
  hostSemicolon := by decide
  clientName := by decide
  fetchSize := by decide
  oneToken := by decide
  tokenAlone := by decide
  texts := by
    rintro (_ | _ | _ | _ | _ | _ | _ | _ | _) <;> exact ⟨by decide, by decide⟩
  keys := by
    simp only [awkward, List.forall_mem_cons, List.not_mem_nil, false_implies, implies_true, and_true]
    exact ⟨⟨by decide, by decide, by decide, by decide⟩, ⟨by decide, by decide, by decide, by decide⟩,
      by decide, by decide, by decide, by decide⟩
  values := by
    simp only [awkward, List.forall_mem_cons, List.not_mem_nil, false_implies, implies_true, and_true]
    exact ⟨⟨by decide, by decide⟩, ⟨by decide, by decide⟩, by decide, by decide⟩
  distinct := by decide

theorem awkward_parse_format :
    Carried awkward ∧ ∃ s, format awkward = .ok s ∧ parse s = .ok awkward := by
  refine ⟨awkward_carried, (parse_format awkward_carried).1.2 ⟨by decide +kernel, ?_⟩⟩
  rintro (_ | _ | _) <;> decide +kernel

/-- Settings whose port has one digit more than can be written. -/
def longPort : Config where
  port := Nat.pow 10 digitCap

theorem longPort_carried : Carried longPort where
  hostColon := by decide
  hostSemicolon := by decide
  clientName := by decide
  fetchSize := by decide
  oneToken := by decide
  tokenAlone := by decide
  texts := by
    rintro (_ | _ | _ | _ | _ | _ | _ | _ | _) <;> exact ⟨by decide, by decide⟩
  keys := List.forall_mem_nil _
  values := List.forall_mem_nil _
  distinct := .nil

theorem longPort_unwritten :
    Carried longPort ∧ format longPort = .error (.fault .badValue) := by
  have tooLong : isWritable longPort.port = false := by decide +kernel
  refine ⟨longPort_carried, ?_⟩
  rw [format, writable, tooLong]
  rfl

end ExaWire.ConnectionString
