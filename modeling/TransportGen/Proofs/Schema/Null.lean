import TransportGen.Proofs.Json.Object
import TransportGen.Proofs.Schema.Generic

/-!
# Optional values and null

The schema of an optional value is that of the value, widened so that it takes null. Widening changes
the keyword `type` and leaves the keyword `enum`, which the schema of an enumeration has: so the schema
of an optional enumeration does not take null, and that of any other optional value does.

* `acceptsNull_option_iff`: which optional values may be null by their schemas.
-/

namespace TransportGen

/-! ## Schemas that take null -/

/-- Whether null passes the keyword `type`, if it is there: it is the name or among the names. -/
def passesType : Option JsonValue → Bool
  | none => true
  | some (.string type) => type == "null"
  | some (.array types) => types.any fun
    | .string type => type == "null"
    | _ => false
  | some _ => false

/-- Whether null passes the keyword `enum`, if it is there: it is among the values. -/
def passesChoices : Option JsonValue → Bool
  | none => true
  | some (.array values) => values.any fun
    | .null => true
    | _ => false
  | some _ => false

/-- Whether null passes both keywords of the schema. -/
def acceptsNull (schema : JsonValue) : Bool :=
  passesType (schema.field? "type") && passesChoices (schema.field? "enum")

theorem passesChoices_strings (choices : List String) :
    passesChoices (some (.strings choices)) = false := by
  simp [passesChoices, JsonValue.strings]

/-! ## The keywords of a schema -/

/-- What the schema of every type has in the two keywords. -/
structure IsTypeSchema (schema : JsonValue) : Prop where
  /-- It is an object. -/
  object : ∃ t : Table String JsonValue, schema = .object t.entries
  /-- Its type is one name, unless it has been widened. -/
  type : ∀ value, schema.field? "type" = some value →
    (∃ name, value = .string name) ∨ passesType (some value) = true
  /-- Its choices are texts. -/
  choices : ∀ value, schema.field? "enum" = some value → ∃ choices, value = .strings choices

/-- The schema of a type that has no choices. -/
structure IsPlainSchema (schema : JsonValue) : Prop extends IsTypeSchema schema where
  no_choices : schema.field? "enum" = none

section Nullable

variable {schema : JsonValue}

/-- Null passes the type of a widened schema. -/
theorem passesType_nullable (h : IsTypeSchema schema) :
    passesType ((nullable schema).field? "type") = true := by
  obtain ⟨t, ht⟩ := h.object
  rw [nullable]
  split
  · rw [ht, field?_setField, if_pos rfl]
    simp [passesType, JsonValue.strings]
  · rename_i hother
    cases htype : schema.field? "type" with
    | none => rfl
    | some value =>
      rcases h.type value htype with ⟨name, rfl⟩ | hpasses
      · exact (hother name htype).elim
      · exact hpasses

/-- Widening leaves the choices. -/
theorem choices_nullable (h : IsTypeSchema schema) :
    (nullable schema).field? "enum" = schema.field? "enum" := by
  obtain ⟨t, ht⟩ := h.object
  rw [nullable]
  split
  · rw [ht, field?_setField, if_neg (by decide)]
  · rfl

theorem isTypeSchema_nullable (h : IsTypeSchema schema) : IsTypeSchema (nullable schema) := by
  refine ⟨?_, ?_, ?_⟩
  · obtain ⟨t, ht⟩ := h.object
    rw [nullable, ht]
    split
    · exact ⟨_, setField_object _ _ _⟩
    · exact ⟨t, rfl⟩
  · intro value hvalue
    rw [← hvalue]
    exact Or.inr (passesType_nullable h)
  · rw [choices_nullable h]
    exact h.choices

/-- A widened schema takes null if it has no choices. -/
theorem acceptsNull_nullable (h : IsTypeSchema schema) :
    acceptsNull (nullable schema) = true ↔ schema.field? "enum" = none := by
  rw [acceptsNull, passesType_nullable h, choices_nullable h, Bool.true_and]
  cases hchoices : schema.field? "enum" with
  | none => exact iff_of_true rfl rfl
  | some value =>
    obtain ⟨choices, rfl⟩ := h.choices value hchoices
    rw [passesChoices_strings]
    simp

end Nullable

/-! ## The schemas of types -/

section Forms

theorem isPlainSchema_ofFields {fields : List (String × JsonValue)}
    (htype : ∀ value, ("type", value) ∈ fields → ∃ name, value = .string name)
    (hkeys : "enum" ∉ fields.map Prod.fst) : IsPlainSchema (.ofFields fields) := by
  have hchoices := field?_ofFields_eq_none.2 hkeys
  refine ⟨⟨⟨_, ofFields_eq fields⟩, ?_, ?_⟩, hchoices⟩
  · intro value hvalue
    exact Or.inl (htype value (mem_of_field?_ofFields hvalue))
  · intro value hvalue
    rw [hchoices] at hvalue
    exact absurd hvalue (Option.some_ne_none value).symm

theorem isPlainSchema_bareSchema (type : String) : IsPlainSchema (bareSchema type) := by
  apply isPlainSchema_ofFields <;> simp

theorem isPlainSchema_formatSchema (type format : String) :
    IsPlainSchema (formatSchema type format) := by
  apply isPlainSchema_ofFields <;> simp

theorem isPlainSchema_anySchema : IsPlainSchema anySchema := by
  have hempty : anySchema = .ofFields [] := rfl
  rw [hempty]
  apply isPlainSchema_ofFields <;> simp

theorem isPlainSchema_arraySchema (items : JsonValue) : IsPlainSchema (arraySchema items) := by
  apply isPlainSchema_ofFields <;> simp

theorem isPlainSchema_mapSchema (values : JsonValue) : IsPlainSchema (mapSchema values) := by
  apply isPlainSchema_ofFields <;> simp

theorem isPlainSchema_recordSchema (properties : List (String × JsonValue))
    (required : List String) : IsPlainSchema (recordSchema properties required) := by
  apply isPlainSchema_ofFields <;> cases required <;> simp

theorem isPlainSchema_builtin {text : String} {schema : JsonValue}
    (h : builtinSchema? text = some schema) : IsPlainSchema schema := by
  unfold builtinSchema? at h
  split_ifs at h <;> cases h
  all_goals first
    | exact isPlainSchema_bareSchema _
    | exact isPlainSchema_formatSchema _ _
    | exact isPlainSchema_anySchema

theorem field?_choiceSchema (choices : List String) :
    (choiceSchema choices).field? "enum" = some (.strings choices) := by
  rw [choiceSchema, field?_ofFields, Table.get?_ofList]
  rfl

theorem isTypeSchema_choiceSchema (choices : List String) :
    IsTypeSchema (choiceSchema choices) := by
  refine ⟨⟨_, ofFields_eq _⟩, ?_, ?_⟩
  · intro value hvalue
    have hmem := mem_of_field?_ofFields hvalue
    left
    exact ⟨"string", by simpa using hmem⟩
  · intro value hvalue
    rw [field?_choiceSchema, Option.some.injEq] at hvalue
    exact ⟨choices, hvalue.symm⟩

end Forms

/-- Whether the name is that of an enumeration without fields. -/
def TypeIndex.IsEnumeration (index : TypeIndex) (name : String) : Prop :=
  ∃ variants, index.variants? name = some variants ∧ variants ≠ [] ∧
    ∀ variant ∈ variants, variant.isUnit = true

/-- The types whose schemas have choices: enumerations without fields, by themselves or inside
optional values and pointers. -/
inductive IsChoice (index : TypeIndex) : List Char → Prop
  | named {type : List Char} (hname : String.ofList (stripReference type) ∉ builtinNames)
      (hform : TypeForm.of (stripReference type) = .named)
      (h : index.IsEnumeration (lastSegment (String.ofList (stripReference type)))) :
      IsChoice index type
  | optional {type inner : List Char} (hform : TypeForm.of (stripReference type) = .optional inner)
      (h : IsChoice index inner) : IsChoice index type
  | pointer {type inner : List Char} (hform : TypeForm.of (stripReference type) = .pointer inner)
      (h : IsChoice index inner) : IsChoice index type

theorem isChoice_iff {index : TypeIndex} {type : List Char} : IsChoice index type ↔
    match TypeForm.of (stripReference type) with
    | .optional inner => IsChoice index inner
    | .pointer inner => IsChoice index inner
    | .named => String.ofList (stripReference type) ∉ builtinNames ∧
        index.IsEnumeration (lastSegment (String.ofList (stripReference type)))
    | _ => False := by
  constructor
  · rintro (⟨hname, hform, h⟩ | ⟨hform, h⟩ | ⟨hform, h⟩)
    · rw [hform]
      exact ⟨hname, h⟩
    · rw [hform]
      exact h
    · rw [hform]
      exact h
  · intro h
    split at h
    · exact .optional ‹_› h
    · exact .pointer ‹_› h
    · exact .named h.1 ‹_› h.2
    · exact h.elim

/-- Induction over what wrappers hold. -/
theorem inner_induction {motive : List Char → Prop}
    (step : ∀ type, (∀ inner, (TypeForm.of (stripReference type)).inner? = some inner →
      motive inner) → motive type) (type : List Char) : motive type := by
  -- What a wrapper holds is shorter, but no part of the text that recursion on lists would reach.
  induction hlength : type.length using Nat.strongRecOn generalizing type with
  | ind length ih =>
    apply step
    intro inner hinner
    have hlt := length_inner_lt_of_form rfl hinner
    exact ih inner.length (hlength ▸ hlt) inner rfl

section Types

variable (index : TypeIndex) (depth : Nat)

theorem namedSchema_of_isEnumeration {bare : List Char}
    (h : index.IsEnumeration (lastSegment (String.ofList bare))) :
    ∃ choices, namedSchema index depth bare = choiceSchema choices := by
  obtain ⟨variants, hvariants, hne, hunit⟩ := h
  have hshape : (index.get? (lastSegment (String.ofList bare))).map TypeDecl.shape =
      some (.variants variants) := by
    unfold TypeIndex.variants? at hvariants
    split at hvariants
    · rename_i hshape
      rw [hshape, Option.some.inj hvariants]
    · exact absurd hvariants (Option.some_ne_none variants).symm
  have htest : (!variants.isEmpty && variants.all (·.isUnit)) = true := by
    rw [Bool.and_eq_true, Bool.not_eq_true', List.isEmpty_eq_false_iff, List.all_eq_true]
    exact ⟨hne, hunit⟩
  refine ⟨variants.map (·.name), ?_⟩
  rw [namedSchema, hshape]
  simp only [htest, if_true]

theorem isPlainSchema_namedSchema {bare : List Char}
    (h : ¬index.IsEnumeration (lastSegment (String.ofList bare))) :
    IsPlainSchema (namedSchema index depth bare) := by
  unfold namedSchema
  split
  · split
    · exact isPlainSchema_recordSchema _ _
    · exact isPlainSchema_bareSchema _
  · rename_i variants hshape
    split
    · rename_i htest
      rw [Bool.and_eq_true, Bool.not_eq_true', List.isEmpty_eq_false_iff,
        List.all_eq_true] at htest
      have hvariants : index.variants? (lastSegment (String.ofList bare)) = some variants := by
        rw [TypeIndex.variants?, hshape]
      exact (h ⟨variants, hvariants, htest.1, htest.2⟩).elim
    · exact isPlainSchema_bareSchema _
  · exact isPlainSchema_bareSchema _

theorem isTypeSchema_schemaAt (type : List Char) : IsTypeSchema (schemaAt index depth type) := by
  induction type using inner_induction with
  | step type ih =>
    cases hbuiltin : builtinSchema? (String.ofList (stripReference type)) with
    | some schema =>
      rw [schemaAt_builtin hbuiltin]
      exact (isPlainSchema_builtin hbuiltin).toIsTypeSchema
    | none =>
      rw [schemaAt_eq hbuiltin]
      cases hform : TypeForm.of (stripReference type) with
      | optional inner => exact isTypeSchema_nullable (ih inner (by rw [hform]; rfl))
      | pointer inner => exact ih inner (by rw [hform]; rfl)
      | sequence item => exact (isPlainSchema_arraySchema _).toIsTypeSchema
      | mapping value => exact (isPlainSchema_mapSchema _).toIsTypeSchema
      | generic => exact (isPlainSchema_bareSchema _).toIsTypeSchema
      | named =>
        by_cases h : index.IsEnumeration (lastSegment (String.ofList (stripReference type)))
        · obtain ⟨choices, hchoices⟩ := namedSchema_of_isEnumeration index depth h
          rw [TypeForm.schema, hchoices]
          exact isTypeSchema_choiceSchema choices
        · exact (isPlainSchema_namedSchema index depth h).toIsTypeSchema

/-- The schema of a type has choices exactly if the type is an enumeration under optional values and
pointers. -/
theorem choices_schemaAt (type : List Char) :
    (schemaAt index depth type).field? "enum" = none ↔ ¬IsChoice index type := by
  induction type using inner_induction with
  | step type ih =>
    rw [isChoice_iff]
    cases hbuiltin : builtinSchema? (String.ofList (stripReference type)) with
    | some schema =>
      -- What is built in is no optional value and no pointer, so it has no enumeration inside.
      have hmem : String.ofList (stripReference type) ∈ builtinNames := by
        by_contra hother
        rw [builtinSchema?_eq_none_iff.2 hother] at hbuiltin
        exact Option.some_ne_none schema hbuiltin.symm
      have hforms : ∀ text ∈ builtinNames, TypeForm.of text.toList = .named ∨
          TypeForm.of text.toList = .sequence "u8".toList := by decide
      rw [schemaAt_builtin hbuiltin]
      refine iff_of_true (isPlainSchema_builtin hbuiltin).no_choices ?_
      rcases hforms _ hmem with hform | hform <;> rw [String.toList_ofList] at hform <;> rw [hform]
      · exact fun h => h.1 hmem
      · exact not_false
    | none =>
      rw [schemaAt_eq hbuiltin]
      cases hform : TypeForm.of (stripReference type) with
      | optional inner =>
        rw [TypeForm.schema, choices_nullable (isTypeSchema_schemaAt index depth inner)]
        exact ih inner (by rw [hform]; rfl)
      | pointer inner => exact ih inner (by rw [hform]; rfl)
      | sequence item => exact iff_of_true (isPlainSchema_arraySchema _).no_choices not_false
      | mapping value => exact iff_of_true (isPlainSchema_mapSchema _).no_choices not_false
      | generic => exact iff_of_true (isPlainSchema_bareSchema _).no_choices not_false
      | named =>
        have hname := builtinSchema?_eq_none_iff.1 hbuiltin
        by_cases h : index.IsEnumeration (lastSegment (String.ofList (stripReference type)))
        · obtain ⟨choices, hchoices⟩ := namedSchema_of_isEnumeration index depth h
          rw [TypeForm.schema, hchoices, field?_choiceSchema]
          exact iff_of_false (Option.some_ne_none _) (not_not_intro ⟨hname, h⟩)
        · refine iff_of_true (isPlainSchema_namedSchema index depth h).no_choices ?_
          exact fun hchoice => h hchoice.2

end Types

/-! ## Optional values -/

theorem acceptsNull_nullable_schemaAt (index : TypeIndex) (depth : Nat) (inner : List Char) :
    acceptsNull (nullable (schemaAt index depth inner)) = true ↔ ¬IsChoice index inner := by
  rw [acceptsNull_nullable (isTypeSchema_schemaAt index depth inner), choices_schemaAt]

theorem acceptsNull_bareSchema {type : String} (h : type ≠ "null") :
    acceptsNull (bareSchema type) = false := by
  have htype : (bareSchema type).field? "type" = some (.string type) := by
    rw [bareSchema, field?_ofFields, Table.get?_ofList]
    rfl
  rw [acceptsNull, htype, passesType, beq_eq_false_iff_ne.2 h, Bool.false_and]

/-- **Which optional values may be null.** -/
theorem acceptsNull_option_iff (index : TypeIndex) (path : List Identifier) (body : List Char) :
    acceptsNull (typeSchema index (String.ofList (genericText path "Option" body))) = true ↔
      ∃ inner, genericArguments body = [inner] ∧ ¬IsChoice index inner := by
  have hne := genericText_ne_bytes path isIdentifier_option (by decide) body
  rw [typeSchema, String.toList_ofList, schemaAt_genericText path isIdentifier_option hne]
  by_cases hsingle : ∃ inner, genericArguments body = [inner]
  · obtain ⟨inner, hinner⟩ := hsingle
    have hform : TypeForm.ofGeneric "Option" [inner] = .optional inner := rfl
    rw [hinner, hform, TypeForm.schema, acceptsNull_nullable_schemaAt]
    constructor
    · intro hchoice
      exact ⟨inner, rfl, hchoice⟩
    · rintro ⟨other, hother, hchoice⟩
      rw [List.singleton_inj] at hother
      rw [hother]
      exact hchoice
  · have hform : TypeForm.ofGeneric "Option" (genericArguments body) = .generic := by
      unfold TypeForm.ofGeneric
      rw [if_pos rfl]
      split
      · rename_i inner hinner
        exact (hsingle ⟨inner, hinner⟩).elim
      · rfl
    rw [hform, TypeForm.schema, acceptsNull_bareSchema (by decide)]
    refine iff_of_false Bool.false_ne_true ?_
    rintro ⟨inner, hinner, -⟩
    exact hsingle ⟨inner, hinner⟩

/-- An index with one enumeration. -/
def colors : TypeIndex := TypeIndex.insert {} ⟨"Color", "crate", .variants [⟨"Red", true⟩]⟩

/-- An optional enumeration may not be null by its schema. -/
theorem acceptsNull_option_color : acceptsNull (typeSchema colors "Option<Color>") = false := by
  have htext : "Option<Color>".toList = genericText [] "Option" "Color".toList := by decide
  have hchoice : IsChoice colors "Color".toList := by
    apply IsChoice.named
    · decide
    · decide
    · exact ⟨[⟨"Red", true⟩], by decide, by decide, by decide⟩
  rw [typeSchema, htext, schemaAt_option colors 0 [] (by decide), Bool.eq_false_iff]
  intro haccepts
  exact (acceptsNull_nullable_schemaAt colors 0 _).1 haccepts hchoice

end TransportGen
