import TransportGen.Declaration
import TransportGen.Json.Value
import TransportGen.TypeText

/-!
# Schemas of types

`typeSchema` describes a type, given as text, by a JSON schema. Wrappers such as `Option` and `Vec`
are taken off one at a time; `TypeForm.of` says which wrapper is outermost and what it holds. Structs
of the index are described by their fields, down to a depth of four structs, and enumerations without
fields by their variants.

* `TypeForm.length_inner_lt`: what a wrapper holds is a shorter text than the whole.
-/

namespace TransportGen

/-! ## Forms of types -/

/-- A type without one leading reference and without blanks at its ends. -/
def stripReference (type : List Char) : List Char :=
  match Text.trim type with
  | '&' :: rest => referent rest
  | type => type

/-- The item type of a slice or an array; the length of an array is dropped. -/
def sliceInner? (type : List Char) : Option (List Char) := do
  let rest ← Text.stripStart? ['['] type
  let inner ← Text.stripEnd? [']'] rest
  match Text.splitFirst (· == ';') inner with
  | some (item, _) => pure (Text.trim item)
  | none => pure (Text.trim inner)

/-- The pieces of a text between the commas that stand in no brackets; `depth` counts the brackets
that are open. -/
def splitArguments (depth : Nat) : List Char → List (List Char)
  | [] => [[]]
  | c :: s =>
    if c == ',' && depth == 0 then [] :: splitArguments depth s
    else
      let inner :=
        if c == '<' || c == '(' || c == '[' then depth + 1
        else if c == '>' || c == ')' || c == ']' then depth - 1
        else depth
      match splitArguments inner s with
      | [] => [[c]]
      | piece :: rest => (c :: piece) :: rest

/-- The arguments of a generic type: the trimmed pieces, without an empty last one and without
lifetimes. -/
def genericArguments (body : List Char) : List (List Char) :=
  let pieces := (splitArguments 0 body).map Text.trim
  let pieces := if pieces.getLast? == some [] then pieces.dropLast else pieces
  pieces.filter (·.head? != some '\'')

/-- The name and the arguments of a generic type. -/
def splitGeneric? (type : List Char) : Option (List Char × List (List Char)) := do
  let (name, rest) ← Text.splitFirst (· == '<') type
  let body ← Text.stripEnd? ['>'] rest
  pure (name, genericArguments body)

/-- The outermost form of a type. -/
inductive TypeForm where
  /-- An optional value. -/
  | optional (inner : List Char)
  /-- A pointer, which does not show in JSON. -/
  | pointer (inner : List Char)
  /-- A sequence of items. -/
  | sequence (item : List Char)
  /-- A map from texts. -/
  | mapping (value : List Char)
  /-- Any other generic type. -/
  | generic
  /-- A type without arguments. -/
  | named
  deriving DecidableEq, Repr

/-- The form of a generic type with a given name and arguments. -/
def TypeForm.ofGeneric (name : String) (arguments : List (List Char)) : TypeForm :=
  if name = "Option" then
    match arguments with
    | [inner] => .optional inner
    | _ => .generic
  else if ["Box", "Arc", "Rc", "Cow"].contains name then
    match arguments.getLast? with
    | some inner => .pointer inner
    | none => .generic
  else if ["Vec", "VecDeque", "HashSet", "BTreeSet"].contains name then
    match arguments with
    | [item] => .sequence item
    | _ => .generic
  else if ["HashMap", "BTreeMap"].contains name then
    match arguments with
    | [_, value] => .mapping value
    | _ => .generic
  else .generic

/-- The form of a type. -/
def TypeForm.of (type : List Char) : TypeForm :=
  match sliceInner? type with
  | some item => .sequence item
  | none =>
    match splitGeneric? type with
    | some (name, arguments) => .ofGeneric (lastSegment (String.ofList name)) arguments
    | none => .named

/-- What a wrapper holds. -/
def TypeForm.inner? : TypeForm → Option (List Char)
  | optional inner => some inner
  | pointer inner => some inner
  | sequence item => some item
  | mapping value => some value
  | generic => none
  | named => none

/-! ## Wrappers get shorter -/

theorem length_referent_le (rest : List Char) : (referent rest).length ≤ rest.length := by
  have key : ∀ s : List Char, s.length ≤ rest.length →
      (Text.trim ((Text.stripStart? "mut ".toList s).getD s)).length ≤ rest.length := by
    intro s hs
    refine Nat.le_trans (Text.length_trim_le _) ?_
    cases h : Text.stripStart? "mut ".toList s with
    | none => simpa using hs
    | some r =>
      rw [Text.stripStart?_eq_some_iff] at h
      have := congrArg List.length h
      simp only [List.length_append] at this
      simp only [Option.getD_some]
      omega
  unfold referent
  apply key
  split
  · split
    · rename_i h
      have := Text.length_of_splitFirst h
      simp only [List.length_cons]
      omega
    · simp
  · exact Nat.le_refl _

theorem length_stripReference_le (type : List Char) :
    (stripReference type).length ≤ type.length := by
  have := Text.length_trim_le type
  unfold stripReference
  split
  · rename_i rest h
    have := length_referent_le rest
    have hlength := congrArg List.length h
    simp only [List.length_cons] at hlength
    omega
  · assumption

theorem length_sliceInner_lt {type inner : List Char} (h : sliceInner? type = some inner) :
    inner.length < type.length := by
  simp only [sliceInner?, Option.bind_eq_bind, Option.bind_eq_some_iff,
    Text.stripStart?_eq_some_iff, Text.stripEnd?_eq_some_iff] at h
  obtain ⟨rest, rfl, body, rfl, h⟩ := h
  have htrim := Text.length_trim_le body
  split at h
  · rename_i item _ hs
    have := Text.length_trim_le item
    have := Text.length_of_splitFirst hs
    simp only [pure, Option.some.injEq] at h
    subst h
    simp only [List.length_append, List.length_cons]
    omega
  · simp only [pure, Option.some.injEq] at h
    subst h
    simp only [List.length_append, List.length_cons]
    omega

theorem length_of_mem_splitArguments {depth : Nat} {s piece : List Char}
    (h : piece ∈ splitArguments depth s) : piece.length ≤ s.length := by
  induction s generalizing depth piece with
  | nil => simp_all [splitArguments]
  | cons c s ih =>
    simp only [splitArguments] at h
    split at h
    · rcases List.mem_cons.1 h with rfl | h
      · simp
      · exact Nat.le_succ_of_le (ih h)
    · split at h
      · rcases List.mem_cons.1 h with rfl | h <;> simp_all
      · rename_i first rest heq
        rcases List.mem_cons.1 h with rfl | h
        · have hfirst := ih (heq ▸ List.mem_cons_self : first ∈ _)
          simp only [List.length_cons]
          omega
        · exact Nat.le_succ_of_le (ih (heq ▸ List.mem_cons_of_mem _ h))

theorem length_of_mem_genericArguments {body argument : List Char}
    (h : argument ∈ genericArguments body) : argument.length ≤ body.length := by
  simp only [genericArguments, List.mem_filter] at h
  have hmem : argument ∈ (splitArguments 0 body).map Text.trim := by
    have h := h.1
    split at h
    · exact List.dropLast_subset _ h
    · exact h
  obtain ⟨piece, hpiece, rfl⟩ := List.mem_map.1 hmem
  exact Nat.le_trans (Text.length_trim_le _) (length_of_mem_splitArguments hpiece)

theorem TypeForm.inner_mem {name : String} {arguments : List (List Char)} {inner : List Char}
    (h : (TypeForm.ofGeneric name arguments).inner? = some inner) : inner ∈ arguments := by
  unfold TypeForm.ofGeneric at h
  split at h
  · split at h <;> simp_all [TypeForm.inner?]
  · split at h
    · split at h
      · rename_i hlast
        simp only [TypeForm.inner?, Option.some.injEq] at h
        subst h
        exact List.mem_of_getLast? hlast
      · simp [TypeForm.inner?] at h
    · split at h
      · split at h <;> simp_all [TypeForm.inner?]
      · split at h
        · split at h <;> simp_all [TypeForm.inner?]
        · simp [TypeForm.inner?] at h

theorem TypeForm.length_inner_lt {type inner : List Char}
    (h : (TypeForm.of type).inner? = some inner) : inner.length < type.length := by
  unfold TypeForm.of at h
  split at h
  · rename_i hs
    simp only [TypeForm.inner?, Option.some.injEq] at h
    subst h
    exact length_sliceInner_lt hs
  · split at h
    · rename_i hg
      have hmem := TypeForm.inner_mem h
      simp only [splitGeneric?, Option.bind_eq_bind, Option.bind_eq_some_iff,
        Text.stripEnd?_eq_some_iff] at hg
      obtain ⟨⟨name, rest⟩, hsplit, body, hbody, hpair⟩ := hg
      simp only [pure, Option.some.injEq, Prod.mk.injEq] at hpair
      obtain ⟨-, rfl⟩ := hpair
      have h₁ := length_of_mem_genericArguments hmem
      have h₂ := Text.length_of_splitFirst hsplit
      have h₃ := congrArg List.length hbody
      simp only [List.length_append, List.length_cons] at h₃
      omega
    · simp [TypeForm.inner?] at h

theorem length_inner_lt_of_form {type inner : List Char} {form : TypeForm}
    (h : TypeForm.of (stripReference type) = form) (hi : form.inner? = some inner) :
    inner.length < type.length :=
  Nat.lt_of_lt_of_le (TypeForm.length_inner_lt (h ▸ hi)) (length_stripReference_le type)

/-! ## Schemas -/

/-- A schema that is a type and nothing else. -/
def bareSchema (type : String) : JsonValue := .ofFields [("type", .string type)]

/-- A schema with a format. -/
def formatSchema (type format : String) : JsonValue :=
  .ofFields [("type", .string type), ("format", .string format)]

/-- The schema that everything fits. -/
def anySchema : JsonValue := .object []

/-- The schema of an array. -/
def arraySchema (items : JsonValue) : JsonValue :=
  .ofFields [("type", .string "array"), ("items", items)]

/-- The schema of a map from texts. -/
def mapSchema (values : JsonValue) : JsonValue :=
  .ofFields [("type", .string "object"), ("additionalProperties", values)]

/-- The schema of an object with given properties, some of them required. -/
def recordSchema (properties : List (String × JsonValue)) (required : List String) : JsonValue :=
  .ofFields <|
    [("type", .string "object"), ("properties", .ofFields properties)] ++
      (if required.isEmpty then [] else [("required", .strings required)])

/-- The schema of one of some texts. -/
def choiceSchema (choices : List String) : JsonValue :=
  .ofFields [("type", .string "string"), ("enum", .strings choices)]

/-- The schema of a type that is built in. -/
def builtinSchema? (type : String) : Option JsonValue :=
  if ["String", "str", "char"].contains type then some (bareSchema "string")
  else if type = "bool" then some (bareSchema "boolean")
  else if ["i8", "i16", "i32", "u8", "u16", "u32"].contains type then
    some (formatSchema "integer" "int32")
  else if ["i64", "u64", "i128", "u128", "isize", "usize"].contains type then
    some (formatSchema "integer" "int64")
  else if type = "f32" then some (formatSchema "number" "float")
  else if type = "f64" then some (formatSchema "number" "double")
  else if ["Vec<u8>", "[u8]"].contains type then some (formatSchema "string" "byte")
  else if type = "()" then some anySchema
  else none

/-- A schema that also takes null: its type becomes the choice of that type and null. -/
def nullable (schema : JsonValue) : JsonValue :=
  match schema.field? "type" with
  | some (.string type) => schema.setField "type" (.strings [type, "null"])
  | _ => schema

/-- The number of structs inside each other that are described by their fields. -/
def maxDepth : Nat := 4

/-- Whether a field of a struct is required. -/
def isRequired (field : FieldDecl) : Bool :=
  (Text.stripStart? "Option<".toList field.type.toList).isNone

/-- The schema of a type inside `depth` structs. -/
def schemaAt (index : TypeIndex) (depth : Nat) (type : List Char) : JsonValue :=
  let bare := stripReference type
  match builtinSchema? (String.ofList bare) with
  | some schema => schema
  | none =>
    match _h : TypeForm.of bare with
    | .optional inner => nullable (schemaAt index depth inner)
    | .pointer inner => schemaAt index depth inner
    | .sequence item => arraySchema (schemaAt index depth item)
    | .mapping value => mapSchema (schemaAt index depth value)
    | .generic => bareSchema "object"
    | .named =>
      match (index.get? (lastSegment (String.ofList bare))).map TypeDecl.shape with
      | some (.record fields) =>
        if depth < maxDepth then
          recordSchema (fields.map fun f => (f.name, schemaAt index (depth + 1) f.type.toList))
            ((fields.filter isRequired).map (·.name))
        else bareSchema "object"
      | some (.variants variants) =>
        if !variants.isEmpty && variants.all (·.isUnit) then
          choiceSchema (variants.map (·.name))
        else bareSchema "object"
      | _ => bareSchema "object"
termination_by (maxDepth - depth, type.length)
decreasing_by
  all_goals first
    | exact Prod.Lex.right _ (length_inner_lt_of_form _h rfl)
    | exact Prod.Lex.left _ _ (by omega)

/-- The schema of a type. -/
def typeSchema (index : TypeIndex) (type : String) : JsonValue := schemaAt index 0 type.toList

end TransportGen
