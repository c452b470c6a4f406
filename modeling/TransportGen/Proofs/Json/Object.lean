import TransportGen.Json.Value
import TransportGen.Proofs.Table

/-!
# Fields of objects

An object that is made of fields is a table: of two fields of one name the later one is found
(`field?_ofFields`), and setting a field is putting in an entry (`field?_setField`).
-/

namespace TransportGen

theorem ofFields_eq (fields : List (String × JsonValue)) :
    JsonValue.ofFields fields = .object (Table.ofList fields).entries := by
  have hfold : ∀ t : Table String JsonValue,
      fields.foldl (fun sorted f => insertSorted f.1 f.2 sorted) t.entries =
        (fields.foldl (fun t entry => t.insert entry.1 entry.2) t).entries := by
    induction fields with
    | nil => exact fun _ => rfl
    | cons field rest ih => exact fun t => ih (t.insert field.1 field.2)
  exact congrArg JsonValue.object (hfold Table.empty)

theorem fields_ofFields (fields : List (String × JsonValue)) :
    (JsonValue.ofFields fields).fields = (Table.ofList fields).entries := by
  rw [ofFields_eq]
  rfl

theorem field?_object (t : Table String JsonValue) (name : String) :
    (JsonValue.object t.entries).field? name = t.get? name := by
  have hlookup : ∀ entries : List (String × JsonValue),
      entries.lookup name = Table.find name entries := by
    intro entries
    induction entries with
    | nil => rfl
    | cons entry rest ih =>
      obtain ⟨key, value⟩ := entry
      by_cases hname : name = key
      · simp [Table.find, hname]
      · have htest : (name == key) = false := beq_eq_false_iff_ne.2 hname
        simp [List.lookup_cons, Table.find, hname, htest, ih]
  exact hlookup t.entries

theorem field?_ofFields (fields : List (String × JsonValue)) (name : String) :
    (JsonValue.ofFields fields).field? name = (Table.ofList fields).get? name := by
  rw [ofFields_eq, field?_object]

theorem mem_of_field?_ofFields {fields : List (String × JsonValue)} {name : String}
    {value : JsonValue} (h : (JsonValue.ofFields fields).field? name = some value) :
    (name, value) ∈ fields := by
  rw [field?_ofFields, Table.get?_ofList, Option.map_eq_some_iff] at h
  obtain ⟨field, hlast, rfl⟩ := h
  obtain ⟨hmem, hname⟩ := List.mem_filter.1 (List.mem_of_getLast? hlast)
  rw [← of_decide_eq_true hname]
  exact hmem

theorem field?_ofFields_eq_none {fields : List (String × JsonValue)} {name : String} :
    (JsonValue.ofFields fields).field? name = none ↔ name ∉ fields.map Prod.fst := by
  rw [field?_ofFields, Table.get?_eq_none_iff, Table.mem_keys_ofList, List.mem_map]

theorem setField_object (t : Table String JsonValue) (name : String) (new : JsonValue) :
    (JsonValue.object t.entries).setField name new = .object (t.insert name new).entries := rfl

theorem field?_setField (t : Table String JsonValue) (name key : String) (new : JsonValue) :
    ((JsonValue.object t.entries).setField name new).field? key =
      if key = name then some new else (JsonValue.object t.entries).field? key := by
  rw [setField_object, field?_object, field?_object, Table.get?_insert]

end TransportGen
