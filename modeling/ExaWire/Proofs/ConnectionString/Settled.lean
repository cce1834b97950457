/-
ExaWire/Proofs/ConnectionString/Settled.lean

What settings a list of entries comes to.

Entries are assigned from left to right, and `Settled` says what is left of that in the end:
each setting has the value of the last entry with its key, or its default if there is none.
It needs no order but that, so entries of different keys come to the same settings however
they are arranged (`last_eq_of_perm`, `Settled.same`).

The proof goes entry by entry.  What one entry does is said once, in `Assigned`, and shown by
the four kinds of keys (`assigning`); that the last entry has the last word follows from it
without another look at the keys (`Settled.assign`).
-/
import ExaWire.Proofs.ConnectionString.Items

namespace ExaWire.ConnectionString

open Config

/-! ### Settings by key -/

section Settings

variable (c : Config)

theorem text_setText (value : String) (k : TextKey) :
    (c.setText value k).text = fun k' => if k' = k then value else c.text k' := by
  funext k'
  cases k <;> cases k' <;> rfl

theorem flag_setText (value : String) (k : TextKey) : (c.setText value k).flag = c.flag := by
  funext k'
  cases k <;> rfl

theorem number_setText (value : String) (k : TextKey) : (c.setText value k).number = c.number := by
  funext k'
  cases k <;> rfl

theorem text_setFlag (b : Bool) (k : FlagKey) : (c.setFlag b k).text = c.text := by
  funext k'
  cases k <;> rfl

theorem flag_setFlag (b : Bool) (k : FlagKey) :
    (c.setFlag b k).flag = fun k' => if k' = k then b else c.flag k' := by
  funext k'
  cases k <;> cases k' <;> rfl

theorem number_setFlag (b : Bool) (k : FlagKey) : (c.setFlag b k).number = c.number := by
  funext k'
  cases k <;> rfl

theorem text_setNumber (n : Int) (k : NumberKey) : (c.setNumber n k).text = c.text := by
  funext k'
  cases k <;> rfl

theorem flag_setNumber (n : Int) (k : NumberKey) : (c.setNumber n k).flag = c.flag := by
  funext k'
  cases k <;> rfl

theorem number_setNumber (n : Int) (k : NumberKey) :
    (c.setNumber n k).number = fun k' => if k' = k then n else c.number k' := by
  funext k'
  cases k <;> cases k' <;> rfl

end Settings

/-- A parameter that is put among others is found, and the others as before. -/
theorem lookup_putParam (key value other : String) (params : List (String × String)) :
    (putParam key value params).lookup other =
      if other = key then some value else params.lookup other := by
  induction params with
  | nil =>
    rw [putParam, List.lookup_cons]
    by_cases h : other = key
    · simp [h]
    · simp [beq_false_of_ne h, h]
  | cons p params ih =>
    rw [putParam]
    split
    · next same =>
      rw [List.lookup_cons, List.lookup_cons, same]
      by_cases h : other = key
      · simp [h]
      · simp [beq_false_of_ne h, h]
    · next different =>
      rw [List.lookup_cons, List.lookup_cons, ih]
      by_cases h : other = p.1
      · simp [h, different]
      · simp [beq_false_of_ne h]

theorem keys_putParam (key value : String) (params : List (String × String)) :
    (putParam key value params).map Prod.fst =
      if key ∈ params.map Prod.fst then params.map Prod.fst else params.map Prod.fst ++ [key] := by
  induction params with
  | nil => rfl
  | cons p params ih =>
    rw [putParam]
    split
    · next same => simp [same]
    · next different =>
      rw [List.map_cons, List.map_cons, ih]
      by_cases h : key ∈ params.map Prod.fst
      · rw [if_pos h, if_pos (List.mem_cons_of_mem _ h)]
      · have absent : key ∉ p.1 :: params.map Prod.fst :=
          List.not_mem_cons_of_ne_of_not_mem (Ne.symm different) h
        rw [if_neg h, if_neg absent, List.cons_append]

theorem nodup_putParam (key value : String) {params : List (String × String)}
    (h : (params.map Prod.fst).Nodup) : ((putParam key value params).map Prod.fst).Nodup := by
  rw [keys_putParam]
  split
  · exact h
  · next absent =>
    rw [List.nodup_append]
    refine ⟨h, List.nodup_cons.2 ⟨List.not_mem_nil, List.nodup_nil⟩, fun a ha b hb => ?_⟩
    obtain rfl := List.mem_singleton.1 hb
    exact fun e => absent (e ▸ ha)

/-! ### Keys -/

theorem TextKey.name_ne_flag (k : TextKey) (k' : FlagKey) : k.name ≠ k'.name := by
  cases k <;> cases k' <;> decide

theorem TextKey.name_ne_number (k : TextKey) (k' : NumberKey) : k.name ≠ k'.name := by
  cases k <;> cases k' <;> decide

theorem FlagKey.name_ne_number (k : FlagKey) (k' : NumberKey) : k.name ≠ k'.name := by
  cases k <;> cases k' <;> decide

theorem TextKey.name_inj {k k' : TextKey} : k.name = k'.name ↔ k = k' := by
  cases k <;> cases k' <;> decide

theorem FlagKey.name_inj {k k' : FlagKey} : k.name = k'.name ↔ k = k' := by
  cases k <;> cases k' <;> decide

theorem NumberKey.name_inj {k k' : NumberKey} : k.name = k'.name ↔ k = k' := by
  cases k <;> cases k' <;> decide

theorem TextKey.name_mem_ownKeys (k : TextKey) : k.name ∈ ownKeys := by
  cases k <;> decide

theorem FlagKey.name_mem_ownKeys (k : FlagKey) : k.name ∈ ownKeys := by
  cases k <;> decide

theorem NumberKey.name_mem_ownKeys (k : NumberKey) : k.name ∈ ownKeys := by
  cases k <;> decide

/-- A key is that of a text, of a flag or of a number, or it is none of the settings' own. -/
theorem key_cases (key : String) :
    (∃ k : TextKey, key = k.name) ∨ (∃ k : FlagKey, key = k.name) ∨
      (∃ k : NumberKey, key = k.name) ∨ key ∉ ownKeys := by
  by_cases h : key ∈ ownKeys
  · simp only [ownKeys, List.mem_append, List.mem_map] at h
    rcases h with (⟨k, -, rfl⟩ | ⟨k, -, rfl⟩) | ⟨k, -, rfl⟩
    · exact .inl ⟨k, rfl⟩
    · exact .inr (.inl ⟨k, rfl⟩)
    · exact .inr (.inr (.inl ⟨k, rfl⟩))
  · exact .inr (.inr (.inr h))

/-! ### Assigning one entry -/

/-- What an entry does to settings: the setting of its key is what its value says, all others
stay, and an entry with another key is put among the further parameters. -/
structure Assigned (c : Config) (key value : String) (d : Config) : Prop where
  host : d.host = c.host
  port : d.port = c.port
  text : ∀ k : TextKey, d.text k = if k.name = key then value else c.text k
  flag : ∀ k : FlagKey, d.flag k = if k.name = key then flagOf k value else c.flag k
  number : ∀ k : NumberKey,
    some (d.number k) = if k.name = key then readInt? value else some (c.number k)
  params : d.params = if key ∈ ownKeys then c.params else putParam key value c.params

/-- The outcome of assigning an entry: it is refused only if its key is that of a number and its
value is none. -/
inductive Assigning (c : Config) (key value : String) : Except Refusal Config → Prop
  | assigned {d : Config} :
      Assigned c key value d →
      (∀ k : NumberKey, key = k.name → (readInt? value).isSome = true) →
      Assigning c key value (.ok d)
  | refused (k : NumberKey) :
      key = k.name → readInt? value = none → Assigning c key value (.error (.number key value))

theorem assigning (c : Config) (key value : String) : Assigning c key value (assign c key value) := by
  obtain ⟨k, rfl⟩ | ⟨k, rfl⟩ | ⟨k, rfl⟩ | further := key_cases key
  · -- a text
    rw [assign_text]
    refine .assigned ⟨?_, ?_, fun k' => ?_, fun k' => ?_, fun k' => ?_, ?_⟩ fun k' e => ?_
    · cases k <;> rfl
    · cases k <;> rfl
    · simp [text_setText, TextKey.name_inj]
    · simp [flag_setText, (TextKey.name_ne_flag k k').symm]
    · simp [number_setText, (TextKey.name_ne_number k k').symm]
    · rw [if_pos (TextKey.name_mem_ownKeys k)]
      cases k <;> rfl
    · exact absurd e (TextKey.name_ne_number k k')
  · -- a flag
    rw [assign_flagOf]
    refine .assigned ⟨?_, ?_, fun k' => ?_, fun k' => ?_, fun k' => ?_, ?_⟩ fun k' e => ?_
    · cases k <;> rfl
    · cases k <;> rfl
    · simp [text_setFlag, TextKey.name_ne_flag k' k]
    · simp only [flag_setFlag, FlagKey.name_inj]
      by_cases same : k' = k
      · simp [same]
      · simp [same]
    · simp [number_setFlag, (FlagKey.name_ne_number k k').symm]
    · rw [if_pos (FlagKey.name_mem_ownKeys k)]
      cases k <;> rfl
    · exact absurd e (FlagKey.name_ne_number k k')
  · -- a number
    rw [assign_number_eq]
    cases read : readInt? value with
    | none => exact .refused k rfl read
    | some n =>
      refine .assigned ⟨?_, ?_, fun k' => ?_, fun k' => ?_, fun k' => ?_, ?_⟩ fun k' e => ?_
      · cases k <;> rfl
      · cases k <;> rfl
      · simp [text_setNumber, TextKey.name_ne_number k' k]
      · simp [flag_setNumber, FlagKey.name_ne_number k' k]
      · simp only [number_setNumber, NumberKey.name_inj, read]
        by_cases same : k' = k
        · simp [same]
        · simp [same]
      · rw [if_pos (NumberKey.name_mem_ownKeys k)]
        cases k <;> rfl
      · rw [read]
        rfl
  · -- a further parameter
    have text (k : TextKey) : k.name ≠ key := fun e => further (e ▸ TextKey.name_mem_ownKeys k)
    have flag (k : FlagKey) : k.name ≠ key := fun e => further (e ▸ FlagKey.name_mem_ownKeys k)
    have number (k : NumberKey) : k.name ≠ key := fun e => further (e ▸ NumberKey.name_mem_ownKeys k)
    rw [assign_param further]
    refine .assigned ⟨rfl, rfl, fun k => ?_, fun k => ?_, fun k => ?_, ?_⟩ fun k e => ?_
    · rw [if_neg (text k)]
      rfl
    · rw [if_neg (flag k)]
      rfl
    · rw [if_neg (number k)]
      rfl
    · rw [if_neg further]
      rfl
    · exact absurd e.symm (number k)

/-- An entry can be assigned unless its key is that of a number and its value is none. -/
theorem assign_ok_iff {c : Config} {key value : String} :
    (∃ d, assign c key value = .ok d) ↔
      ∀ k : NumberKey, key = k.name → (readInt? value).isSome = true := by
  have outcome := assigning c key value
  generalize assign c key value = result at outcome
  cases outcome with
  | assigned _ read => exact ⟨fun _ => read, fun _ => ⟨_, rfl⟩⟩
  | refused k e unread =>
    refine ⟨?_, fun read => ?_⟩
    · rintro ⟨d, assigned⟩
      cases assigned
    · exact absurd (read k e) (by simp [unread])

theorem assigned_of_assign {c d : Config} {key value : String} (h : assign c key value = .ok d) :
    Assigned c key value d := by
  have outcome := assigning c key value
  rw [h] at outcome
  cases outcome with
  | assigned settings _ => exact settings

/-- What is refused is the number of an entry. -/
theorem assign_error {c : Config} {key value : String} {r : Refusal}
    (h : assign c key value = .error r) :
    ∃ k : NumberKey, key = k.name ∧ readInt? value = none ∧ r = .number key value := by
  have outcome := assigning c key value
  rw [h] at outcome
  cases outcome with
  | refused k e unread => exact ⟨k, e, unread, rfl⟩

/-! ### The last entry of a key -/

/-- The value of the last entry with a key. -/
def last (entries : List (String × String)) (key : String) : Option String :=
  entries.reverse.lookup key

@[simp] theorem last_nil (key : String) : last [] key = none := rfl

theorem last_concat (entries : List (String × String)) (e : String × String) (key : String) :
    last (entries ++ [e]) key = if key = e.1 then some e.2 else last entries key := by
  unfold last
  rw [List.reverse_append, List.reverse_singleton, List.singleton_append, List.lookup_cons]
  by_cases h : key = e.1
  · simp [h]
  · simp [beq_false_of_ne h, h]

theorem lookup_eq_some_iff_mem {entries : List (String × String)} {key value : String}
    (distinct : (entries.map Prod.fst).Nodup) :
    entries.lookup key = some value ↔ (key, value) ∈ entries := by
  induction entries with
  | nil => simp
  | cons e entries ih =>
    rw [List.map_cons, List.nodup_cons] at distinct
    obtain ⟨fresh, distinct⟩ := distinct
    rw [List.lookup_cons, List.mem_cons]
    by_cases h : key = e.1
    · have absent : (key, value) ∉ entries := fun mem =>
        fresh (h ▸ List.mem_map_of_mem (f := Prod.fst) mem)
      simp [h, h ▸ absent, Prod.ext_iff, eq_comm]
    · have other : (key, value) ≠ e := fun eq => h (congrArg Prod.fst eq)
      simp [beq_false_of_ne h, other, ih distinct]

/-- Among entries of different keys the order does not matter. -/
theorem last_eq_of_perm {entries others : List (String × String)} (perm : entries.Perm others)
    (distinct : (entries.map Prod.fst).Nodup) (key : String) : last entries key = last others key := by
  have backwards {l : List (String × String)} (h : (l.map Prod.fst).Nodup) :
      (l.reverse.map Prod.fst).Nodup := (l.reverse_perm.map Prod.fst).nodup_iff.2 h
  have distinct' : (others.map Prod.fst).Nodup := (perm.map Prod.fst).nodup_iff.1 distinct
  apply Option.ext
  intro value
  unfold last
  rw [lookup_eq_some_iff_mem (backwards distinct), lookup_eq_some_iff_mem (backwards distinct'),
    List.mem_reverse, List.mem_reverse]
  exact perm.mem_iff

/-! ### Settings from entries -/

/-- The settings that entries come to behind an address: each has the value of the last entry
with its key, or else its default, and all other keys are further parameters. -/
structure Settled (host : String) (port : Int) (entries : List (String × String)) (c : Config) :
    Prop where
  host : c.host = host
  port : c.port = port
  text : ∀ k : TextKey, c.text k = (last entries k.name).getD (({} : Config).text k)
  flag : ∀ k : FlagKey,
    c.flag k = ((last entries k.name).map (flagOf k)).getD (({} : Config).flag k)
  number : ∀ k : NumberKey,
    some (c.number k) = ((last entries k.name).map readInt?).getD (some (({} : Config).number k))
  param : ∀ key, c.params.lookup key = if key ∈ ownKeys then none else last entries key
  distinct : (c.params.map Prod.fst).Nodup

variable {host : String} {port : Int} {entries : List (String × String)} {c : Config}

theorem settled_nil (host : String) (port : Int) : Settled host port [] { host, port } where
  host := rfl
  port := rfl
  text k := by cases k <;> rfl
  flag k := by cases k <;> rfl
  number k := by cases k <;> rfl
  param key := by simp
  distinct := List.nodup_nil

/-- One more entry is assigned, and has the last word on its key. -/
theorem Settled.assign (h : Settled host port entries c) {e : String × String} {d : Config}
    (assigned : Assigned c e.1 e.2 d) : Settled host port (entries ++ [e]) d where
  host := assigned.host.trans h.host
  port := assigned.port.trans h.port
  text k := by
    rw [assigned.text, last_concat, h.text]
    split <;> rfl
  flag k := by
    rw [assigned.flag, last_concat, h.flag]
    split <;> rfl
  number k := by
    rw [assigned.number, last_concat, h.number]
    split <;> rfl
  param key := by
    rw [assigned.params, last_concat]
    by_cases own : e.1 ∈ ownKeys
    · rw [if_pos own, h.param]
      by_cases same : key = e.1
      · rw [if_pos (same ▸ own), if_pos (same ▸ own)]
      · rw [if_neg same]
    · rw [if_neg own, lookup_putParam, h.param]
      by_cases same : key = e.1
      · rw [if_pos same, if_pos same, if_neg (same ▸ own)]
      · rw [if_neg same, if_neg same]
  distinct := by
    rw [assigned.params]
    split
    · exact h.distinct
    · exact nodup_putParam _ _ h.distinct

/-- Entries that are assigned behind others settle what all of them say. -/
theorem Settled.assignAll {more : List (String × String)} (h : Settled host port entries c)
    {d : Config} (assigned : assignAll c more = .ok d) : Settled host port (entries ++ more) d := by
  induction more generalizing entries c with
  | nil =>
    cases assigned
    rwa [List.append_nil]
  | cons e more ih =>
    unfold ConnectionString.assignAll at assigned
    rw [List.foldlM_cons] at assigned
    cases first : ConnectionString.assign c e.1 e.2 with
    | error r =>
      rw [first] at assigned
      cases assigned
    | ok c' =>
      rw [first] at assigned
      have rest := ih (h.assign (assigned_of_assign first)) assigned
      rwa [List.append_assoc, List.singleton_append] at rest

/-! ### Settings that agree -/

theorem eq_of_settings {c d : Config} (host : c.host = d.host) (port : c.port = d.port)
    (text : c.text = d.text) (flag : c.flag = d.flag) (number : c.number = d.number) :
    { c with params := [] } = { d with params := [] } := by
  have texts := congrFun text
  have flags := congrFun flag
  have numbers := congrFun number
  have user := texts .user
  have password := texts .password
  have accessToken := texts .accessToken
  have refreshToken := texts .refreshToken
  have fingerprint := texts .certificateFingerprint
  have clientName := texts .clientName
  have clientVersion := texts .clientVersion
  have schema := texts .schema
  have urlPath := texts .urlPath
  have autocommit := flags .autocommit
  have encryption := flags .encryption
  have compression := flags .compression
  have validated := flags .validateServerCertificate
  have fetchSize := numbers .fetchSize
  have queryTimeout := numbers .queryTimeout
  have maxRows := numbers .resultSetMaxRows
  simp only [Config.text, Config.flag, Config.number] at *
  cases c
  cases d
  simp_all

/-- Parameters with the same values are the same parameters, in whatever order. -/
theorem sameParams_of_lookup {a b : List (String × String)} (ha : (a.map Prod.fst).Nodup)
    (hb : (b.map Prod.fst).Nodup) (h : ∀ key, a.lookup key = b.lookup key) :
    sameParams a b = true := by
  have members (e : String × String) : e ∈ a ↔ e ∈ b := by
    rw [← lookup_eq_some_iff_mem ha, ← lookup_eq_some_iff_mem hb, h]
  have entriesNodup {l : List (String × String)} (hl : (l.map Prod.fst).Nodup) : l.Nodup :=
    List.Pairwise.of_map Prod.fst (fun _ _ apart e => apart (congrArg Prod.fst e)) hl
  have perm : a.Perm b := (List.perm_ext_iff_of_nodup (entriesNodup ha) (entriesNodup hb)).2 members
  unfold sameParams
  rw [Bool.and_eq_true, decide_eq_true_eq, List.all_eq_true]
  refine ⟨perm.length_eq, fun e he => ?_⟩
  exact decide_eq_true ((lookup_eq_some_iff_mem hb).2 ((members e).1 he))

/-- Settings that the same last entries come to agree. -/
theorem Settled.same {others : List (String × String)} {d : Config}
    (h : Settled host port entries c) (h' : Settled host port others d)
    (agree : ∀ key, last entries key = last others key) : same c d = true := by
  have params : sameParams c.params d.params = true := by
    refine sameParams_of_lookup h.distinct h'.distinct fun key => ?_
    rw [h.param, h'.param, agree]
  have settings : { c with params := [] } = { d with params := [] } := by
    refine eq_of_settings (h.host.trans h'.host.symm) (h.port.trans h'.port.symm) ?_ ?_ ?_
    · funext k
      rw [h.text, h'.text, agree]
    · funext k
      rw [h.flag, h'.flag, agree]
    · funext k
      have number := h.number k
      rw [agree, ← h'.number] at number
      exact Option.some.inj number
  unfold Config.same
  rw [params, settings]
  simp

end ExaWire.ConnectionString
