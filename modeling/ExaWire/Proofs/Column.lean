/-
ExaWire/Proofs/Column.lean

Columns are written as they were read.

A descriptor names a column and describes its type by up to eight attributes.  Of these the
ones that are known and not null are read, and all that was read is written again, in an order
of its own: `Descriptor.echo` is the descriptor less what is unknown or null.  A zero, an
empty text and `false` are not null.
-/
import ExaWire.Column
import ExaWire.Proofs.Value.Fields

namespace ExaWire

open Value (entry)

namespace ColumnType

/-- The keys of the attributes of a type behind its name. -/
def attributeKeys : List String :=
  ["precision", "scale", "size", "characterSet", "withLocalTimeZone", "fraction", "srid"]

/-- All keys of a type that are known. -/
def keys : List String := "type" :: attributeKeys

theorem nodup_keys : keys.Nodup := by decide

/-- Whether a field is not null. -/
def isSet (f : String × Value) : Bool := !isNull f.2

/-- What is kept of an object: the entries of some keys, less those that are null. -/
def kept (keys : List String) (entries : List (Value × Value)) : List (String × Value) :=
  (keys.map fun key => (key, Value.field entries key)).filter isSet

variable {ks : List String} {entries : List (Value × Value)} {fields : List (String × Value)}
  {key : String} {v : Value}

/-- An entry is kept if its key is known and its value is not null, whatever else the value is. -/
theorem mem_kept : (key, v) ∈ kept ks entries ↔
    key ∈ ks ∧ Value.lookup? key entries = some v ∧ isNull v = false := by
  have found : Value.field entries key = v ∧ isNull v = false ↔
      Value.lookup? key entries = some v ∧ isNull v = false := by
    unfold Value.field
    cases Value.lookup? key entries with
    | none =>
      refine ⟨?_, nofun⟩
      rintro ⟨rfl, some⟩
      cases some
    | some w => rw [Option.getD_some, Option.some.injEq]
  simp only [kept, List.mem_filter, List.mem_map, Prod.mk.injEq, isSet, Bool.not_eq_true']
  constructor
  · rintro ⟨⟨_, known, rfl, rfl⟩, some⟩
    exact ⟨known, found.1 ⟨rfl, some⟩⟩
  · rintro ⟨known, here⟩
    obtain ⟨same, some⟩ := found.2 here
    exact ⟨⟨key, known, rfl, same⟩, some⟩

theorem keys_kept_sublist : ((kept ks entries).map Prod.fst).Sublist ks := by
  have same : (ks.map fun key => (key, Value.field entries key)).map Prod.fst = ks := by
    rw [List.map_map]
    exact List.map_id ks
  calc ((kept ks entries).map Prod.fst).Sublist
        ((ks.map fun key => (key, Value.field entries key)).map Prod.fst) := List.filter_sublist.map _
    _ = ks := same

/-- Of the fields of an object the ones that are known and not null are kept, in some order. -/
theorem kept_perm (known : ks.Nodup) (distinct : (fields.map Prod.fst).Nodup) :
    (kept ks (fields.map entry)).Perm (fields.filter fun f => f.1 ∈ ks && isSet f) := by
  have once : (kept ks (fields.map entry)).Nodup := .of_map _ (known.sublist keys_kept_sublist)
  refine (List.perm_ext_iff_of_nodup once (distinct.of_map.filter _)).2 fun (key, v) => ?_
  rw [mem_kept, Value.lookup?_eq_some_iff distinct, List.mem_filter, Bool.and_eq_true,
    decide_eq_true_eq, isSet, Bool.not_eq_true']
  constructor
  · exact fun ⟨known, here, given⟩ => ⟨here, known, given⟩
  · exact fun ⟨here, known, given⟩ => ⟨known, here, given⟩

/-- Leaving out the nulls changes nothing for one who reads a field. -/
theorem field_of_mem (distinct : (fields.map Prod.fst).Nodup) (h : (key, v) ∈ fields) :
    Value.field ((fields.filter isSet).map entry) key = v := by
  have distinct' : ((fields.filter isSet).map Prod.fst).Nodup :=
    distinct.sublist (List.filter_sublist.map _)
  unfold Value.field
  cases null : isNull v with
  | false =>
    have given : (key, v) ∈ fields.filter isSet := by
      rw [List.mem_filter, isSet, null]
      exact ⟨h, rfl⟩
    rw [Value.lookup?_of_mem distinct' given, Option.getD_some]
  | true =>
    have none : Value.lookup? key ((fields.filter isSet).map entry) = none := by
      cases found : Value.lookup? key ((fields.filter isSet).map entry) with
      | none => rfl
      | some w =>
        obtain ⟨here, given⟩ := List.mem_filter.1 (Value.mem_of_lookup? found)
        have same : v = w := (Prod.ext_iff.1 (List.inj_on_of_nodup_map distinct h here rfl)).2
        rw [isSet, ← same, null] at given
        cases given
    rw [none]
    cases v with
    | null => rfl
    | _ => cases null

/-- A type is read back from what is written of it. -/
theorem ofValue_toValue (t : ColumnType) : ofValue t.toValue = .ok t := by
  -- the nulls were left out, which makes no difference to one who reads a field
  let fields := ("type", .text t.name) :: t.attributes
  have distinct : (fields.map Prod.fst).Nodup := nodup_keys
  have read (key : String) (v : Value) (h : (key, v) ∈ fields) :
      Value.field ((fields.filter isSet).map entry) key = v := field_of_mem distinct h
  have name : Value.lookup? "type" ((fields.filter isSet).map entry) =
      some (.text t.name) := rfl
  show ofValue (.object ((fields.filter isSet).map entry)) = _
  unfold ofValue Value.entries Value.textField
  simp only [bind, Except.bind, name, Value.plain]
  rw [read "precision" t.precision (by simp [fields, attributes]),
    read "scale" t.scale (by simp [fields, attributes]),
    read "size" t.size (by simp [fields, attributes]),
    read "characterSet" t.characterSet (by simp [fields, attributes]),
    read "withLocalTimeZone" t.withLocalTimeZone (by simp [fields, attributes]),
    read "fraction" t.fraction (by simp [fields, attributes]),
    read "srid" t.srid (by simp [fields, attributes])]

end ColumnType

/-- A column is read back from what is written of it. -/
theorem Column.ofValue_toValue (c : Column) : ofValue c.toValue = .ok c := by
  have dataType : (Value.field [entry ("name", .text c.name), entry ("dataType", c.dataType.toValue)]
      "dataType").orElse (.object []) = c.dataType.toValue := rfl
  have name : Value.textField [entry ("name", .text c.name), entry ("dataType", c.dataType.toValue)]
      "name" = c.name := rfl
  show ofValue (.object [entry ("name", .text c.name), entry ("dataType", c.dataType.toValue)]) = _
  unfold ofValue Value.entries
  simp only [bind, Except.bind, dataType, name, ColumnType.ofValue_toValue]

/-! ### Descriptors -/

/-- A descriptor of a column: an object with a name and a type, which is an object with a name of
its own. -/
structure Descriptor where
  entries : List (Value × Value)
  name : String
  typeEntries : List (Value × Value)
  typeName : String
  hasName : Value.lookup? "name" entries = some (.text name)
  hasType : Value.lookup? "dataType" entries = some (.object typeEntries)
  hasTypeName : Value.lookup? "type" typeEntries = some (.text typeName)

namespace Descriptor

/-- The descriptor as a value. -/
def value (d : Descriptor) : Value := .object d.entries

/-- The descriptor less what is unknown or null. -/
def echo (d : Descriptor) : Value :=
  .ofFields [("name", .text d.name),
    ("dataType", .ofFields (ColumnType.kept ColumnType.keys d.typeEntries))]

theorem exists_type (d : Descriptor) : ∃ t : ColumnType,
    ColumnType.ofValue (.object d.typeEntries) = .ok t ∧
    t.toValue = .ofFields (ColumnType.kept ColumnType.keys d.typeEntries) := by
  have name : Value.textField d.typeEntries "type" = d.typeName := by
    rw [Value.textField, d.hasTypeName]
    rfl
  have field : Value.field d.typeEntries "type" = .text d.typeName := by
    rw [Value.field, d.hasTypeName, Option.getD_some]
  refine ⟨_, rfl, ?_⟩
  unfold ColumnType.toValue ColumnType.kept ColumnType.keys
  rw [List.map_cons, field, name]
  rfl

/-- A descriptor is read as a column, and its echo is what is written of that. -/
theorem exists_column (d : Descriptor) : ∃ c, Column.ofValue d.value = .ok c ∧ c.toValue = d.echo := by
  obtain ⟨t, read, written⟩ := d.exists_type
  have name : Value.textField d.entries "name" = d.name := by
    rw [Value.textField, d.hasName]
    rfl
  have given : (Value.field d.entries "dataType").orElse (.object []) = .object d.typeEntries := by
    rw [Value.field, d.hasType, Option.getD_some, Value.object_orElse]
  refine ⟨⟨d.name, t⟩, ?_, ?_⟩
  · unfold value Column.ofValue Value.entries
    simp only [bind, Except.bind, given, read, name]
  · rw [Column.toValue, written]
    rfl

/-- A descriptor that consists of a name and known attributes that are not null. -/
structure HasOnly (d : Descriptor) (fields : List (String × Value)) : Prop where
  whole : d.entries.Perm [(.text "name", .text d.name), (.text "dataType", .ofFields fields)]
  type : d.typeEntries = fields.map entry
  distinct : (fields.map Prod.fst).Nodup
  known : ∀ f ∈ fields, f.1 ∈ ColumnType.keys
  isSet : ∀ f ∈ fields, ColumnType.isSet f = true

/-- Of such a descriptor all is written again that was read. -/
theorem HasOnly.echo {d : Descriptor} {fields : List (String × Value)} (h : d.HasOnly fields) :
    ∃ sent, d.echo = .ofFields [("name", .text d.name), ("dataType", .ofFields sent)] ∧
      sent.Perm fields := by
  have all : fields.filter (fun f => f.1 ∈ ColumnType.keys && ColumnType.isSet f) = fields := by
    refine List.filter_eq_self.2 fun f hf => ?_
    rw [h.isSet f hf, decide_eq_true (h.known f hf)]
    rfl
  have perm := ColumnType.kept_perm ColumnType.nodup_keys h.distinct
  rw [all, ← h.type] at perm
  exact ⟨_, rfl, perm⟩

/-- The descriptors of several columns. -/
theorem exists_columns (ds : List Descriptor) :
    ∃ cs, (ds.map value).mapM Column.ofValue = .ok cs ∧ cs.map Column.toValue = ds.map echo := by
  induction ds with
  | nil => exact ⟨[], rfl, rfl⟩
  | cons d ds ih =>
    obtain ⟨c, read, written⟩ := d.exists_column
    obtain ⟨cs, reads, writes⟩ := ih
    refine ⟨c :: cs, ?_, by rw [List.map_cons, List.map_cons, written, writes]⟩
    rw [List.map_cons, List.mapM_cons, read]
    show ((ds.map value).mapM Column.ofValue >>= fun cs => pure (c :: cs)) = _
    rw [reads]
    rfl

end Descriptor

end ExaWire
