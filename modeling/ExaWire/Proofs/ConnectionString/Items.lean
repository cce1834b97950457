/-
ExaWire/Proofs/ConnectionString/Items.lean

The items of a connection string, and what each of them sets.

An item carries a key and an escaped value, and is read as the key and the value that it was
made of.  `Fits` says that a key and a value keep to themselves: nothing in them is taken for
a separator, and no backslash at the end covers the one behind.  Which items are found in a
text is told by `Cutting` and `Neighbours`; here each of them is assigned to its key.
-/
import ExaWire.ConnectionString
import ExaWire.Proofs.Number.Reading
import ExaWire.Proofs.Text.Cut

namespace ExaWire.ConnectionString

open Text Config

/-! ### Escaping -/

/-- An escaped value reads back as the value. -/
@[simp] theorem unescape_escape (value : List Char) : unescape (escape value) = value := by
  unfold unescape escape
  rw [replacePair_replaceOne (by decide), replaceOne_self]

/-- An escaped value ends as the value does. -/
theorem getLast?_escape (value : List Char) : (escape value).getLast? = value.getLast? := by
  rcases value.eq_nil_or_concat with rfl | ⟨front, last, rfl⟩
  · rfl
  · unfold escape
    rw [List.concat_eq_append, replaceOne_append]
    by_cases h : last = ';'
    · rw [h, replaceOne_cons_self, replaceOne_nil, List.append_nil]
      simp
    · rw [replaceOne_cons_of_ne h, replaceOne_nil]
      simp

theorem escape_of_notMem {value : List Char} (h : ';' ∉ value) : escape value = value :=
  replaceOne_of_notMem h

/-- An item ends in a backslash only if its value does. -/
theorem getLast?_item_iff {key value : String} :
    (item key value).getLast? = some '\\' ↔ value.toList.getLast? = some '\\' := by
  unfold item
  rw [List.getLast?_append, List.getLast?_cons, getLast?_escape]
  cases value.toList.getLast? <;> simp

/-! ### Splitting -/

/-- A key and a value that keep to themselves in a connection string. -/
structure Fits (key value : String) : Prop where
  equals : '=' ∉ key.toList
  separator : ';' ∉ key.toList
  keyPlaceholder : placeholder ∉ key.toList
  valuePlaceholder : placeholder ∉ value.toList
  ending : value.toList.getLast? ≠ some '\\'

/-- Parameters with a character in place of each escaped semicolon. -/
def guard (parameters : List Char) : List Char := replacePair '\\' ';' [placeholder] parameters

/-- The items of entries. -/
def itemsOf (entries : List (String × String)) : List (List Char) := entries.map fun e => item e.1 e.2

/-! ### Assigning -/

/-- The key and the value of an item, if it has an equals sign. -/
def entry? (item : List Char) : Option (String × String) :=
  (cut? ['='] item).map fun (key, raw) => (String.ofList key, String.ofList (unescape raw))

/-- An item assigns what it is read as, and one without an equals sign is refused. -/
theorem apply_eq (c : Config) (item : List Char) :
    apply c item = match entry? item with
      | some e => assign c e.1 e.2
      | none => .error (.item (String.ofList item)) := by
  unfold apply entry?
  cases cut? ['='] item <;> rfl

/-- An item is read as the key in front of its first equals sign and the value behind it. -/
theorem entry?_append {key : String} (h : '=' ∉ key.toList) (raw : List Char) :
    entry? (key.toList ++ '=' :: raw) = some (key, String.ofList (unescape raw)) := by
  unfold entry?
  rw [cut?_append h, Option.map_some]
  show some (String.ofList key.toList, _) = _
  rw [String.ofList_toList]

/-- An item assigns its value to its key. -/
theorem apply_item {key : String} (h : '=' ∉ key.toList) (c : Config) (value : String) :
    apply c (item key value) = assign c key value := by
  rw [apply_eq, item, entry?_append h, unescape_escape, String.ofList_toList]

/-- Entries assigned from left to right. -/
def assignAll (c : Config) (entries : List (String × String)) : Except Refusal Config :=
  entries.foldlM (fun d e => assign d e.1 e.2) c

theorem assignAll_cons {c d : Config} {e : String × String} {entries : List (String × String)}
    (h : assign c e.1 e.2 = .ok d) : assignAll c (e :: entries) = assignAll d entries := by
  unfold assignAll
  rw [List.foldlM_cons, h]
  rfl

theorem assignAll_append {c d : Config} {front : List (String × String)}
    (h : assignAll c front = .ok d) (entries : List (String × String)) :
    assignAll c (front ++ entries) = assignAll d entries := by
  unfold assignAll at h ⊢
  rw [List.foldlM_append, h]
  rfl

theorem foldlM_apply {entries : List (String × String)} (h : ∀ e ∈ entries, Fits e.1 e.2)
    (c : Config) : (itemsOf entries).foldlM apply c = assignAll c entries := by
  unfold itemsOf assignAll
  rw [List.foldlM_map]
  induction entries generalizing c with
  | nil => rfl
  | cons e entries ih =>
    obtain ⟨he, hentries⟩ := List.forall_mem_cons.1 h
    rw [List.foldlM_cons, List.foldlM_cons, apply_item he.equals]
    exact bind_congr fun d => ih hentries d

theorem assign_text (c : Config) (value : String) (k : TextKey) :
    assign c k.name value = .ok (c.setText value k) := by
  cases k <;> rfl

/-- The text of a flag. -/
def flagText (b : Bool) : String := if b then "1" else "0"

/-- What a text says of a flag: only one text sets it, and for the check of the server's
certificate only one takes it back. -/
def flagOf : FlagKey → String → Bool
  | .validateServerCertificate, value => value ≠ "0"
  | _, value => value = "1"

theorem assign_flagOf (c : Config) (value : String) (k : FlagKey) :
    assign c k.name value = .ok (c.setFlag (flagOf k value) k) := by
  cases k <;> rfl

theorem assign_flag (c : Config) (b : Bool) (k : FlagKey) :
    assign c k.name (flagText b) = .ok (c.setFlag b k) := by
  rw [assign_flagOf]
  cases k <;> cases b <;> rfl

theorem assign_number_eq (c : Config) (value : String) (k : NumberKey) :
    assign c k.name value = match readInt? value with
      | some n => .ok (c.setNumber n k)
      | none => .error (.number k.name value) := by
  cases k <;> rfl

theorem assign_number {n : Int} (h : isWritable n = true) (c : Config) (k : NumberKey) :
    assign c k.name (toString n) = .ok (c.setNumber n k) := by
  rw [assign_number_eq, readInt?_toString h]

/-- The keys that have a setting of their own. -/
def ownKeys : List String :=
  TextKey.all.map TextKey.name ++ FlagKey.all.map FlagKey.name ++ NumberKey.all.map NumberKey.name

/-- Any other key is a further parameter. -/
theorem assign_param {key : String} (h : key ∉ ownKeys) (c : Config) (value : String) :
    assign c key value = .ok (c.setParam key value) := by
  simp only [ownKeys, List.mem_append, List.mem_map, not_or, not_exists, not_and] at h
  obtain ⟨⟨texts, flags⟩, numbers⟩ := h
  have noText : TextKey.all.find? (fun k => decide (k.name = key)) = none := by
    simpa [List.find?_eq_none] using texts
  have noFlag : FlagKey.all.find? (fun k => decide (k.name = key)) = none := by
    simpa [List.find?_eq_none] using flags
  have noNumber : NumberKey.all.find? (fun k => decide (k.name = key)) = none := by
    simpa [List.find?_eq_none] using numbers
  unfold assign
  rw [noText, noFlag, noNumber]

/-- A parameter that was not given before stands behind all others. -/
theorem putParam_of_notMem {key : String} {params : List (String × String)}
    (h : key ∉ params.map (·.1)) (value : String) :
    putParam key value params = params ++ [(key, value)] := by
  induction params with
  | nil => rfl
  | cons p params ih =>
    obtain ⟨hp, hparams⟩ := not_or.1 (mt List.mem_cons.2 h)
    rw [putParam, if_neg (Ne.symm hp), ih hparams, List.cons_append]

/-- Parameters of different keys are all kept, in their order. -/
theorem assignAll_params {params : List (String × String)} (own : ∀ p ∈ params, p.1 ∉ ownKeys)
    (c : Config) (apart : ((c.params ++ params).map (·.1)).Nodup) :
    assignAll c params = .ok { c with params := c.params ++ params } := by
  induction params generalizing c with
  | nil =>
    rw [List.append_nil]
    rfl
  | cons p params ih =>
    obtain ⟨hp, hparams⟩ := List.forall_mem_cons.1 own
    have fresh : p.1 ∉ c.params.map (·.1) := by
      rw [List.map_append, List.map_cons, List.nodup_append] at apart
      exact fun h => apart.2.2 p.1 h p.1 List.mem_cons_self rfl
    have put : c.setParam p.1 p.2 = { c with params := c.params ++ [p] } := by
      rw [setParam, putParam_of_notMem fresh]
    have joined : c.params ++ [p] ++ params = c.params ++ p :: params := by simp
    rw [assignAll_cons ((assign_param hp c p.2).trans (congrArg _ put)), ih hparams _ (by rwa [joined]),
      joined]

end ExaWire.ConnectionString
