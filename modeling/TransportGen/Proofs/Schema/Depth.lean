import TransportGen.Proofs.Schema.Calls

/-!
# How deep schemas go

A struct is described by its fields only inside fewer than four structs, so a schema is bounded also
where types refer to themselves.

* `exists_call_of_step`: the schemas inside the schema of a type are schemas of the types that it
  asks for, and the structs on the way there are those that the recursion has counted.
* `expands_bounded`: the bound, and what the recursion does about wrappers.
-/

namespace TransportGen

/-! ## Paths through a schema -/

/-- From a schema to those that it has for the items of an array, the values of a map or a property of
an object. -/
inductive SchemaStep (schema : JsonValue) : JsonValue → Prop
  | items {inner : JsonValue} (h : schema.field? "items" = some inner) : SchemaStep schema inner
  | values {inner : JsonValue} (h : schema.field? "additionalProperties" = some inner) :
      SchemaStep schema inner
  | property {properties inner : JsonValue} {name : String}
      (h : schema.field? "properties" = some properties)
      (hinner : properties.field? name = some inner) : SchemaStep schema inner

/-- Whether the schema describes a struct by its fields. -/
def isExpanded (schema : JsonValue) : Bool := (schema.field? "properties").isSome

/-- A path leads from the schema to an inner one, past `structs` structs that are described by their
fields. -/
inductive Inside (schema : JsonValue) : Nat → JsonValue → Prop
  | here : Inside schema 0 schema
  | step {structs : Nat} {inner next : JsonValue} (h : Inside schema structs inner)
      (hstep : SchemaStep inner next) : Inside schema (structs + (isExpanded inner).toNat) next

/-- The keywords that hold further schemas. -/
def partKeywords : List String := ["items", "additionalProperties", "properties"]

/-- A schema without further ones. -/
def IsLeaf (schema : JsonValue) : Prop := ∀ key ∈ partKeywords, schema.field? key = none

namespace IsLeaf

variable {schema : JsonValue}

theorem not_step (h : IsLeaf schema) {inner : JsonValue} : ¬SchemaStep schema inner := by
  rintro (hitems | hvalues | ⟨hproperties, -⟩)
  · rw [h _ (by decide)] at hitems
    cases hitems
  · rw [h _ (by decide)] at hvalues
    cases hvalues
  · rw [h _ (by decide)] at hproperties
    cases hproperties

theorem not_isExpanded (h : IsLeaf schema) : isExpanded schema = false := by
  rw [isExpanded, h _ (by decide)]
  rfl

theorem ofFields {fields : List (String × JsonValue)}
    (h : ∀ key ∈ partKeywords, key ∉ fields.map Prod.fst) : IsLeaf (.ofFields fields) :=
  fun key hkey => field?_ofFields_eq_none.2 (h key hkey)

theorem bareSchema (type : String) : IsLeaf (bareSchema type) := by
  apply ofFields
  simp [partKeywords]

theorem choiceSchema (choices : List String) : IsLeaf (choiceSchema choices) := by
  apply ofFields
  simp [partKeywords]

theorem builtin {text : String} (h : builtinSchema? text = some schema) : IsLeaf schema := by
  have hformat : ∀ type format, IsLeaf (formatSchema type format) := by
    intro type format
    apply ofFields
    simp [partKeywords]
  have hany : IsLeaf anySchema := fun _ _ => rfl
  unfold builtinSchema? at h
  split_ifs at h <;> cases h
  all_goals first
    | exact IsLeaf.bareSchema _
    | exact hformat _ _
    | exact hany

end IsLeaf

/-! ## The parts of each schema -/

section Parts

variable {schema inner : JsonValue}

/-- Widening a schema leaves all keywords but its type. -/
theorem field?_nullable (h : IsTypeSchema schema) {key : String} (hkey : key ≠ "type") :
    (nullable schema).field? key = schema.field? key := by
  obtain ⟨t, ht⟩ := h.object
  rw [nullable]
  split
  · rw [ht, field?_setField, if_neg hkey]
  · rfl

theorem isExpanded_nullable (h : IsTypeSchema schema) :
    isExpanded (nullable schema) = isExpanded schema := by
  rw [isExpanded, field?_nullable h (by decide), isExpanded]

theorem SchemaStep.of_nullable (h : IsTypeSchema schema) (hstep : SchemaStep (nullable schema) inner) :
    SchemaStep schema inner := by
  rcases hstep with hitems | hvalues | ⟨hproperties, hinner⟩
  · rw [field?_nullable h (by decide)] at hitems
    exact .items hitems
  · rw [field?_nullable h (by decide)] at hvalues
    exact .values hvalues
  · rw [field?_nullable h (by decide)] at hproperties
    exact .property hproperties hinner

theorem isExpanded_arraySchema (items : JsonValue) : isExpanded (arraySchema items) = false := by
  rw [isExpanded, arraySchema, field?_ofFields, Table.get?_ofList]
  rfl

theorem isExpanded_mapSchema (values : JsonValue) : isExpanded (mapSchema values) = false := by
  rw [isExpanded, mapSchema, field?_ofFields, Table.get?_ofList]
  rfl

theorem SchemaStep.eq_items {items : JsonValue} (h : SchemaStep (arraySchema items) inner) :
    inner = items := by
  have hmem : ∀ key value, (arraySchema items).field? key = some value →
      (key, value) ∈ [("type", JsonValue.string "array"), ("items", items)] :=
    fun key value => mem_of_field?_ofFields
  rcases h with hitems | hvalues | ⟨hproperties, -⟩
  · simpa using hmem _ _ hitems
  · simpa using hmem _ _ hvalues
  · simpa using hmem _ _ hproperties

theorem SchemaStep.eq_values {values : JsonValue} (h : SchemaStep (mapSchema values) inner) :
    inner = values := by
  have hmem : ∀ key value, (mapSchema values).field? key = some value →
      (key, value) ∈ [("type", JsonValue.string "object"), ("additionalProperties", values)] :=
    fun key value => mem_of_field?_ofFields
  rcases h with hitems | hvalues | ⟨hproperties, -⟩
  · simpa using hmem _ _ hitems
  · simpa using hmem _ _ hvalues
  · simpa using hmem _ _ hproperties

variable {properties : List (String × JsonValue)} {required : List String}

theorem properties_recordSchema :
    (recordSchema properties required).field? "properties" = some (.ofFields properties) := by
  rw [recordSchema, field?_ofFields, Table.get?_ofList]
  cases required <;> rfl

theorem isExpanded_recordSchema : isExpanded (recordSchema properties required) = true := by
  rw [isExpanded, properties_recordSchema]
  rfl

theorem SchemaStep.mem_properties (h : SchemaStep (recordSchema properties required) inner) :
    ∃ name, (name, inner) ∈ properties := by
  have hother : ∀ key ∈ ["items", "additionalProperties"],
      (recordSchema properties required).field? key = none := by
    intro key hkey
    apply field?_ofFields_eq_none.2
    simp only [List.mem_cons, List.not_mem_nil, or_false] at hkey
    rcases hkey with rfl | rfl <;> cases required <;> simp
  rcases h with hitems | hvalues | ⟨hproperties, hinner⟩
  · rw [hother _ (by decide)] at hitems
    cases hitems
  · rw [hother _ (by decide)] at hvalues
    cases hvalues
  · rw [properties_recordSchema, Option.some.injEq] at hproperties
    rw [← hproperties] at hinner
    exact ⟨_, mem_of_field?_ofFields hinner⟩

end Parts

/-! ## Schemas inside schemas -/

section Types

variable {index : TypeIndex} {depth : Nat}

theorem isLeaf_named {type : List Char}
    (hbuiltin : builtinSchema? (String.ofList (stripReference type)) = none)
    (hform : TypeForm.of (stripReference type) = .named)
    (h : structOf? index type = none ∨ ¬depth < maxDepth) : IsLeaf (schemaAt index depth type) := by
  rw [schemaAt_eq hbuiltin, hform, TypeForm.schema, namedSchema]
  rw [structOf?_eq hbuiltin hform, TypeIndex.fields?] at h
  split
  · rename_i fields hshape
    rw [hshape] at h
    split
    · rename_i hdepth
      rcases h with h | h
      · exact absurd h (Option.some_ne_none fields)
      · exact absurd hdepth h
    · exact IsLeaf.bareSchema _
  · split
    · exact IsLeaf.choiceSchema _
    · exact IsLeaf.bareSchema _
  · exact IsLeaf.bareSchema _

/-- What is inside the schema of a type is the schema of a type that it asks for. -/
theorem exists_call_of_step (type : List Char) {inner : JsonValue}
    (h : SchemaStep (schemaAt index depth type) inner) :
    ∃ text, inner = schemaAt index (depth + (isExpanded (schemaAt index depth type)).toNat) text ∧
      Relation.ReflTransGen (SchemaCall index) (depth, type)
        (depth + (isExpanded (schemaAt index depth type)).toNat, text) := by
  -- Optional values and pointers hand on what is inside the schema of what they hold.
  induction type using inner_induction with
  | step type ih =>
    cases hbuiltin : builtinSchema? (String.ofList (stripReference type)) with
    | some schema =>
      rw [schemaAt_builtin hbuiltin] at h
      exact ((IsLeaf.builtin hbuiltin).not_step h).elim
    | none =>
      have hwrapped := wrapped?_eq hbuiltin
      have hschema : schemaAt index depth type = _ := schemaAt_eq hbuiltin
      cases hform : TypeForm.of (stripReference type) with
      | optional held =>
        rw [hform] at hwrapped hschema
        have hheld := isTypeSchema_schemaAt index depth held
        have hexpanded : isExpanded (schemaAt index depth type) =
            isExpanded (schemaAt index depth held) := by
          rw [hschema, TypeForm.schema, isExpanded_nullable hheld]
        rw [hschema, TypeForm.schema] at h
        rw [hexpanded]
        obtain ⟨text, htext, hcalls⟩ := ih held (by rw [hform]; rfl) (h.of_nullable hheld)
        exact ⟨text, htext, hcalls.head (.inner hwrapped)⟩
      | pointer held =>
        rw [hform] at hwrapped hschema
        rw [hschema, TypeForm.schema] at h ⊢
        obtain ⟨text, htext, hcalls⟩ := ih held (by rw [hform]; rfl) h
        exact ⟨text, htext, hcalls.head (.inner hwrapped)⟩
      | sequence item =>
        rw [hform] at hwrapped hschema
        rw [hschema, TypeForm.schema] at h ⊢
        rw [isExpanded_arraySchema]
        exact ⟨item, h.eq_items, .single (.inner hwrapped)⟩
      | mapping value =>
        rw [hform] at hwrapped hschema
        rw [hschema, TypeForm.schema] at h ⊢
        rw [isExpanded_mapSchema]
        exact ⟨value, h.eq_values, .single (.inner hwrapped)⟩
      | generic =>
        rw [hschema, hform, TypeForm.schema] at h
        exact ((IsLeaf.bareSchema _).not_step h).elim
      | named =>
        by_cases hleaf : structOf? index type = none ∨ ¬depth < maxDepth
        · exact ((isLeaf_named hbuiltin hform hleaf).not_step h).elim
        · rw [not_or, not_not] at hleaf
          obtain ⟨fields, hfields⟩ := Option.ne_none_iff_exists'.1 hleaf.1
          rw [schemaAt_struct hfields, if_pos hleaf.2] at h ⊢
          rw [isExpanded_recordSchema]
          obtain ⟨name, hname⟩ := h.mem_properties
          obtain ⟨field, hfield, heq⟩ := List.mem_map.1 hname
          exact ⟨field.type.toList, (Prod.mk.inj heq).2.symm, .single (.field hfields hleaf.2 hfield)⟩

theorem lt_maxDepth_of_isExpanded (type : List Char)
    (h : isExpanded (schemaAt index depth type) = true) : depth < maxDepth := by
  induction type using inner_induction with
  | step type ih =>
    cases hbuiltin : builtinSchema? (String.ofList (stripReference type)) with
    | some schema =>
      rw [schemaAt_builtin hbuiltin, (IsLeaf.builtin hbuiltin).not_isExpanded] at h
      exact Bool.noConfusion h
    | none =>
      have hschema : schemaAt index depth type = _ := schemaAt_eq hbuiltin
      cases hform : TypeForm.of (stripReference type) with
      | optional held =>
        rw [hschema, hform, TypeForm.schema,
          isExpanded_nullable (isTypeSchema_schemaAt index depth held)] at h
        exact ih held (by rw [hform]; rfl) h
      | pointer held =>
        rw [hschema, hform, TypeForm.schema] at h
        exact ih held (by rw [hform]; rfl) h
      | sequence item =>
        rw [hschema, hform, TypeForm.schema, isExpanded_arraySchema] at h
        exact Bool.noConfusion h
      | mapping value =>
        rw [hschema, hform, TypeForm.schema, isExpanded_mapSchema] at h
        exact Bool.noConfusion h
      | generic =>
        rw [hschema, hform, TypeForm.schema, (IsLeaf.bareSchema _).not_isExpanded] at h
        exact Bool.noConfusion h
      | named =>
        by_contra hdepth
        rw [(isLeaf_named hbuiltin hform (Or.inr hdepth)).not_isExpanded] at h
        exact Bool.noConfusion h

/-- The schemas inside the schema of a type are those that the recursion computes, and it counts the
structs on the way. -/
theorem exists_reaches_of_inside {type : String} {structs : Nat} {schema : JsonValue}
    (h : Inside (typeSchema index type) structs schema) :
    ∃ text, Reaches index type structs text ∧ schema = schemaAt index structs text := by
  induction h with
  | here => exact ⟨type.toList, .refl, rfl⟩
  | step _ hstep ih =>
    obtain ⟨text, hreaches, rfl⟩ := ih
    obtain ⟨next, hnext, hcalls⟩ := exists_call_of_step text hstep
    exact ⟨next, hreaches.trans hcalls, hnext⟩

/-- A wrapper asks for what it holds, and for nothing else. -/
theorem schemaCall_iff_of_wrapped? {type inner text : List Char} {structs : Nat}
    (h : wrapped? type = some inner) :
    SchemaCall index (depth, type) (structs, text) ↔ structs = depth ∧ text = inner := by
  constructor
  · intro hcall
    cases hcall with
    | inner hinner => exact ⟨rfl, Option.some.inj (hinner.symm.trans h)⟩
    | field hstruct hdepth hfield =>
      rw [wrapped?_of_structOf? hstruct] at h
      cases h
  · rintro ⟨rfl, rfl⟩
    exact .inner h

end Types

/-! ## The bound -/

/-- What holds for the schemas of all types of an index, also of types that refer to themselves. -/
structure ExpandsBounded (index : TypeIndex) : Prop where
  /-- No type asks for others without end. -/
  terminates : WellFounded fun callee caller => SchemaCall index caller callee
  /-- So the schemas are the one way to describe each type by those that it asks for. -/
  unique : ∀ describe : Nat → List Char → JsonValue,
    (∀ depth type, describe depth type = schemaWith index describe depth type) ↔
      describe = schemaAt index
  /-- A wrapper asks for what it holds inside no more structs, and holds a shorter text. -/
  wrapper : ∀ depth type inner, wrapped? type = some inner → inner.length < type.length ∧
    ∀ structs text, SchemaCall index (depth, type) (structs, text) ↔ structs = depth ∧ text = inner
  /-- A reference is described, inside no more structs, by the shorter text without it. -/
  reference : ∀ type, (Text.trim type).head? = some '&' →
    (stripReference type).length < type.length ∧
      ∀ depth other, stripReference other = stripReference type →
        schemaAt index depth other = schemaAt index depth type
  /-- On a path from the root of a schema at most four structs are described by their fields. -/
  structs_le : ∀ type structs schema, Inside (typeSchema index type) structs schema →
    structs + (isExpanded schema).toNat ≤ 4
  /-- Each schema on such a path is that of a type inside the structs above it. -/
  described : ∀ type structs schema, Inside (typeSchema index type) structs schema →
    ∃ text, Reaches index type structs text ∧ schema = schemaAt index structs text
  /-- Below four structs a struct is a bare object, and above it is described by its fields. -/
  struct : ∀ type depth text fields, Reaches index type depth text →
    structOf? index text = some fields → depth ≤ 4 ∧ schemaAt index depth text =
      if depth = 4 then bareSchema "object"
      else recordSchema (fields.map fun f => (f.name, schemaAt index (depth + 1) f.type.toList))
        ((fields.filter isRequired).map (·.name))

theorem depth_le_of_call {index : TypeIndex} {caller callee : Nat × List Char}
    (h : SchemaCall index caller callee) (hle : caller.1 ≤ maxDepth) : callee.1 ≤ maxDepth := by
  cases h with
  | inner => exact hle
  | field _ hdepth _ => exact hdepth

/-- The recursion is never inside more structs than it describes by their fields. -/
theorem Reaches.depth_le {index : TypeIndex} {type : String} {depth : Nat} {text : List Char}
    (h : Reaches index type depth text) : depth ≤ maxDepth := by
  have hcalls : ∀ call, Relation.ReflTransGen (SchemaCall index) (0, type.toList) call →
      call.1 ≤ maxDepth := by
    intro call hcall
    induction hcall with
    | refl => exact Nat.zero_le _
    | tail _ hlast ih => exact depth_le_of_call hlast ih
  exact hcalls _ h

/-- **Schemas of recursive types are bounded.** -/
theorem expands_bounded (index : TypeIndex) : ExpandsBounded index := by
  refine ⟨wellFounded_schemaCall index, fun _ => eq_schemaAt_iff, ?wrapper, ?reference, ?structs_le,
    fun _ _ _ => exists_reaches_of_inside, ?struct⟩
  case wrapper =>
    intro depth type inner h
    exact ⟨length_wrapped_lt h, fun _ _ => schemaCall_iff_of_wrapped? h⟩
  case reference =>
    intro type h
    exact ⟨length_stripReference_lt h, fun _ _ => schemaAt_of_stripReference⟩
  case structs_le =>
    intro type structs schema h
    obtain ⟨text, hreaches, rfl⟩ := exists_reaches_of_inside h
    cases hexpanded : isExpanded (schemaAt index structs text) with
    | true => exact lt_maxDepth_of_isExpanded text hexpanded
    | false => exact hreaches.depth_le
  case struct =>
    intro type depth text fields hreaches h
    have hle := hreaches.depth_le
    refine ⟨hle, ?_⟩
    rw [schemaAt_struct h]
    by_cases hdepth : depth < maxDepth
    · have hne : depth ≠ 4 := Nat.ne_of_lt hdepth
      rw [if_pos hdepth, if_neg hne]
    · have heq : depth = 4 := Nat.le_antisymm hle (Nat.le_of_not_lt hdepth)
      rw [if_neg hdepth, if_pos heq]

end TransportGen
