import Mathlib.Logic.Relation
import TransportGen.Proofs.Schema.Null

/-!
# The recursion over types

The schema of a type is put together from the schemas of other types: of what a wrapper holds, and of
the fields of a struct. `SchemaCall` says which ones are asked for, `schemaWith` puts the answers
together.

* `schemaAt_eq_schemaWith`, `schemaWith_congr`: the schema of a type depends on these answers alone.
* `wellFounded_schemaCall`: asking comes to an end, whatever cycles the index has.
* `eq_schemaAt_iff`: so there is one way to describe all types.
-/

namespace TransportGen

/-! ## Calls -/

/-- What a type holds, if it is a wrapper. -/
def wrapped? (type : List Char) : Option (List Char) :=
  if String.ofList (stripReference type) ∈ builtinNames then none
  else (TypeForm.of (stripReference type)).inner?

/-- The fields of the indexed struct that a type names. -/
def structOf? (index : TypeIndex) (type : List Char) : Option (List FieldDecl) :=
  if String.ofList (stripReference type) ∉ builtinNames ∧
      TypeForm.of (stripReference type) = .named then
    index.fields? (lastSegment (String.ofList (stripReference type)))
  else none

/-- From a type inside some structs to the types that its schema is made of. -/
inductive SchemaCall (index : TypeIndex) : Nat × List Char → Nat × List Char → Prop
  /-- A wrapper asks for what it holds. -/
  | inner {depth : Nat} {type inner : List Char} (h : wrapped? type = some inner) :
      SchemaCall index (depth, type) (depth, inner)
  /-- A struct that is not too deep asks for its fields. -/
  | field {depth : Nat} {type : List Char} {fields : List FieldDecl} {field : FieldDecl}
      (h : structOf? index type = some fields) (hdepth : depth < maxDepth)
      (hfield : field ∈ fields) : SchemaCall index (depth, type) (depth + 1, field.type.toList)

/-- Whether the schema of a type asks, by way of others, for a type inside `depth` structs. -/
abbrev Reaches (index : TypeIndex) (type : String) (depth : Nat) (text : List Char) : Prop :=
  Relation.ReflTransGen (SchemaCall index) (0, type.toList) (depth, text)

/-- The schema of a type inside `depth` structs, given a description of the types that it is made
of. -/
def schemaWith (index : TypeIndex) (describe : Nat → List Char → JsonValue) (depth : Nat)
    (type : List Char) : JsonValue :=
  let bare := stripReference type
  match builtinSchema? (String.ofList bare) with
  | some schema => schema
  | none =>
    match TypeForm.of bare with
    | .optional inner => nullable (describe depth inner)
    | .pointer inner => describe depth inner
    | .sequence item => arraySchema (describe depth item)
    | .mapping value => mapSchema (describe depth value)
    | .generic => bareSchema "object"
    | .named =>
      match (index.get? (lastSegment (String.ofList bare))).map TypeDecl.shape with
      | some (.record fields) =>
        if depth < maxDepth then
          recordSchema (fields.map fun f => (f.name, describe (depth + 1) f.type.toList))
            ((fields.filter isRequired).map (·.name))
        else bareSchema "object"
      | some (.variants variants) =>
        if !variants.isEmpty && variants.all (·.isUnit) then
          choiceSchema (variants.map (·.name))
        else bareSchema "object"
      | _ => bareSchema "object"

theorem wrapped?_eq {type : List Char}
    (h : builtinSchema? (String.ofList (stripReference type)) = none) :
    wrapped? type = (TypeForm.of (stripReference type)).inner? := by
  rw [wrapped?, if_neg (builtinSchema?_eq_none_iff.1 h)]

theorem structOf?_eq {index : TypeIndex} {type : List Char}
    (h : builtinSchema? (String.ofList (stripReference type)) = none)
    (hform : TypeForm.of (stripReference type) = .named) :
    structOf? index type = index.fields? (lastSegment (String.ofList (stripReference type))) := by
  rw [structOf?, if_pos ⟨builtinSchema?_eq_none_iff.1 h, hform⟩]

/-- The names of structs are no wrappers. -/
theorem wrapped?_of_structOf? {index : TypeIndex} {type : List Char} {fields : List FieldDecl}
    (h : structOf? index type = some fields) : wrapped? type = none := by
  unfold structOf? at h
  split at h
  · rename_i hnamed
    rw [wrapped?, if_neg hnamed.1, hnamed.2]
    rfl
  · exact absurd h (Option.some_ne_none fields).symm

section Level

variable {index : TypeIndex} {depth : Nat} {type : List Char}

theorem schemaAt_eq_schemaWith (index : TypeIndex) (depth : Nat) (type : List Char) :
    schemaAt index depth type = schemaWith index (schemaAt index) depth type := by
  rw [schemaAt, schemaWith]
  cases builtinSchema? (String.ofList (stripReference type)) with
  | some schema => rfl
  | none =>
    cases TypeForm.of (stripReference type) with
    | optional inner => rfl
    | pointer inner => rfl
    | sequence item => rfl
    | mapping value => rfl
    | generic => rfl
    | named => rfl

/-- A schema depends on nothing but the types that it is made of. -/
theorem schemaWith_congr {f g : Nat → List Char → JsonValue}
    (h : ∀ d t, SchemaCall index (depth, type) (d, t) → f d t = g d t) :
    schemaWith index f depth type = schemaWith index g depth type := by
  cases hbuiltin : builtinSchema? (String.ofList (stripReference type)) with
  | some schema => simp only [schemaWith, hbuiltin]
  | none =>
    have hwrapped := wrapped?_eq hbuiltin
    cases hform : TypeForm.of (stripReference type) <;> rw [hform] at hwrapped <;>
      simp only [schemaWith, hbuiltin, hform]
    case optional inner => rw [h depth inner (.inner hwrapped)]
    case pointer inner => rw [h depth inner (.inner hwrapped)]
    case sequence item => rw [h depth item (.inner hwrapped)]
    case mapping value => rw [h depth value (.inner hwrapped)]
    case named =>
      split
      · rename_i fields hshape
        split
        · rename_i hdepth
          have hstruct : structOf? index type = some fields := by
            rw [structOf?_eq hbuiltin hform, TypeIndex.fields?, hshape]
          congr 1
          apply List.map_congr_left
          intro field hfield
          rw [h _ _ (.field hstruct hdepth hfield)]
        · rfl
      · rfl
      · rfl

/-- A type is described by what is left without its reference. -/
theorem schemaAt_of_stripReference {other : List Char}
    (h : stripReference other = stripReference type) :
    schemaAt index depth other = schemaAt index depth type := by
  cases hbuiltin : builtinSchema? (String.ofList (stripReference type)) with
  | some schema =>
    rw [schemaAt_builtin hbuiltin, schemaAt_builtin (h ▸ hbuiltin)]
  | none =>
    rw [schemaAt_eq hbuiltin, schemaAt_eq (h ▸ hbuiltin), h]

/-! ## The end of the recursion -/

/-- What a wrapper holds is a shorter text. -/
theorem length_wrapped_lt {inner : List Char} (h : wrapped? type = some inner) :
    inner.length < type.length := by
  unfold wrapped? at h
  split at h
  · exact absurd h (Option.some_ne_none inner).symm
  · exact length_inner_lt_of_form rfl h

/-- A reference is longer than what it refers to. -/
theorem length_stripReference_lt (h : (Text.trim type).head? = some '&') :
    (stripReference type).length < type.length := by
  obtain ⟨rest, hrest⟩ := List.head?_eq_some_iff.1 h
  have htrim := Text.length_trim_le type
  have hreferent := length_referent_le rest
  rw [stripReference, hrest]
  rw [hrest, List.length_cons] at htrim
  exact Nat.lt_of_le_of_lt hreferent htrim

/-- The depth that is left goes down with every struct and the length of the text with every wrapper,
while the depth stays. -/
theorem wellFounded_schemaCall (index : TypeIndex) :
    WellFounded fun callee caller => SchemaCall index caller callee := by
  have hmeasure := InvImage.wf (fun call : Nat × List Char => (maxDepth - call.1, call.2.length))
    (Prod.lex Nat.lt_wfRel Nat.lt_wfRel).wf
  refine Subrelation.wf ?_ hmeasure
  intro callee caller hcall
  cases hcall with
  | inner h => exact Prod.Lex.right _ (length_wrapped_lt h)
  | field h hdepth hfield => exact Prod.Lex.left _ _ (Nat.sub_succ_lt_self _ _ hdepth)

/-- There is one description of all types. -/
theorem eq_schemaAt_iff {describe : Nat → List Char → JsonValue} :
    (∀ depth type, describe depth type = schemaWith index describe depth type) ↔
      describe = schemaAt index := by
  constructor
  · intro hsolves
    have hcall : ∀ call : Nat × List Char,
        describe call.1 call.2 = schemaAt index call.1 call.2 := by
      intro call
      induction call using (wellFounded_schemaCall index).induction with
      | _ call ih =>
        rw [hsolves, schemaAt_eq_schemaWith]
        exact schemaWith_congr fun d t h => ih (d, t) h
    funext depth type
    exact hcall (depth, type)
  · rintro rfl
    exact schemaAt_eq_schemaWith index

end Level

/-! ## Structs -/

section Structs

variable {index : TypeIndex} {depth : Nat} {type : List Char} {fields : List FieldDecl}

theorem schemaAt_struct (h : structOf? index type = some fields) :
    schemaAt index depth type =
      if depth < maxDepth then
        recordSchema (fields.map fun f => (f.name, schemaAt index (depth + 1) f.type.toList))
          ((fields.filter isRequired).map (·.name))
      else bareSchema "object" := by
  unfold structOf? at h
  split at h
  · rename_i hnamed
    unfold TypeIndex.fields? at h
    split at h
    · rename_i hshape
      rw [Option.some.injEq] at h
      rw [schemaAt_eq (builtinSchema?_eq_none_iff.2 hnamed.1), hnamed.2, TypeForm.schema,
        namedSchema, hshape, h]
    · exact absurd h (Option.some_ne_none fields).symm
  · exact absurd h (Option.some_ne_none fields).symm

end Structs

end TransportGen
