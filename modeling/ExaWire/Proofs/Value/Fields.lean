/-
ExaWire/Proofs/Value/Fields.lean

Objects by their text keys.

An object with distinct text keys holds each of its fields under the key of it, and nothing
under any other key.  Two of them with the same fields are told apart only by the order.
-/
import ExaWire.Value.Coercion
import Mathlib.Data.List.Nodup

namespace ExaWire.Value

/-- A field as an entry. -/
def entry (f : String × Value) : Value × Value := (.text f.1, f.2)

variable {fields : List (String × Value)} {f : String × Value} {key : String} {v : Value}

theorem lookup?_cons (key : String) (f : String × Value) (entries : List (Value × Value)) :
    lookup? key (entry f :: entries) = if f.1 = key then some f.2 else lookup? key entries := by
  rw [entry, lookup?, isText]
  by_cases same : f.1 = key
  · rw [decide_eq_true same, if_pos rfl, if_pos same]
  · rw [decide_eq_false same, if_neg Bool.false_ne_true, if_neg same]

/-- What is found under a key is a field. -/
theorem mem_of_lookup? (h : lookup? key (fields.map entry) = some v) : (key, v) ∈ fields := by
  induction fields with
  | nil => cases h
  | cons f fields ih =>
    rw [List.map_cons, lookup?_cons] at h
    split at h
    · next same =>
      cases h
      rw [← same]
      exact List.mem_cons_self
    · exact List.mem_cons_of_mem _ (ih h)

/-- A field is found under its key. -/
theorem lookup?_of_mem (distinct : (fields.map Prod.fst).Nodup) (h : f ∈ fields) :
    lookup? f.1 (fields.map entry) = some f.2 := by
  induction fields with
  | nil => cases h
  | cons g fields ih =>
    obtain ⟨new, others⟩ := List.nodup_cons.1 distinct
    rw [List.map_cons, lookup?_cons]
    rcases List.mem_cons.1 h with rfl | later
    · rw [if_pos rfl]
    · have differs : g.1 ≠ f.1 := fun same => new (same ▸ List.mem_map_of_mem later)
      rw [if_neg differs, ih others later]

theorem lookup?_eq_some_iff (distinct : (fields.map Prod.fst).Nodup) :
    lookup? key (fields.map entry) = some v ↔ (key, v) ∈ fields :=
  ⟨mem_of_lookup?, fun h => lookup?_of_mem distinct h⟩

/-- An object is taken for an empty one only if it is that, -/
theorem object_orElse (entries : List (Value × Value)) :
    (Value.object entries).orElse (.object []) = .object entries := by
  cases entries with
  | nil => rfl
  | cons _ _ => rfl

/-- and so is a list. -/
theorem list_orElse (vs : List Value) : (Value.list vs).orElse (.list []) = .list vs := by
  cases vs with
  | nil => rfl
  | cons _ _ => rfl

end ExaWire.Value
