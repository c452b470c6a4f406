import TransportGen.Proofs.Document.Aggregate
import TransportGen.Proofs.Json.Object
import TransportGen.View

/-!
# Operations and the code that answers them

The document and the generated code are computed from a method each on its own. This module states
that they agree: `ApiOperation.Describes` relates an operation to the view that the code is printed
from, and the operation of every method in a document describes its view (`operation_describes`).
-/

namespace TransportGen

/-! ## Objects and their schemas -/

/-- The names of the properties in the schema of an object. -/
def propertyNames (schema : JsonValue) : List String :=
  match schema.field? "properties" with
  | some properties => properties.fields.map Prod.fst
  | none => []

/-- The names of the properties that the schema of an object requires. -/
def requiredNames (schema : JsonValue) : List String :=
  match schema.field? "required" with
  | some (.array names) => names.filterMap fun
    | .string name => some name
    | _ => none
  | _ => []

section Record

variable {properties : List (String × JsonValue)} {required : List String}

theorem propertyNames_recordSchema (h : (properties.map Prod.fst).Nodup) :
    (propertyNames (recordSchema properties required)).Perm (properties.map Prod.fst) := by
  have hfield : (recordSchema properties required).field? "properties" =
      some (.ofFields properties) := by
    rw [recordSchema, field?_ofFields, Table.get?_ofList]
    cases required <;> rfl
  simp only [propertyNames, hfield, fields_ofFields]
  refine (List.perm_ext_iff_of_nodup (Table.ofList properties).nodup_keys h).2 fun name => ?_
  rw [Table.mem_keys_ofList, List.mem_map]

theorem requiredNames_recordSchema :
    requiredNames (recordSchema properties required) = required := by
  have hfield : (recordSchema properties required).field? "required" =
      if required.isEmpty then none else some (.strings required) := by
    rw [recordSchema, field?_ofFields, Table.get?_ofList]
    cases required <;> rfl
  simp only [requiredNames, hfield]
  cases required with
  | nil => rfl
  | cons name rest => simp [JsonValue.strings, List.filterMap_map]

end Record

/-! ## Parameters -/

/-- The JSON name of a field of a request body: the one that its attribute gives it, or else its
name as it is spelled. -/
def ParamView.wireName (p : ParamView) : String := if p.attribute?.isSome then p.key else p.name

theorem wireName_of (p : ParameterBinding) : (ParamView.of p).wireName = p.key := by
  simp only [ParamView.wireName, ParamView.attribute?, ParamView.of]
  by_cases hkey : p.key = p.name
  · simp [hkey]
  · simp [hkey]

/-- The parameters that the generated code takes from one place. -/
def MethodView.paramsAt (v : MethodView) : ParamSource → List ParamView
  | .path => v.pathParams
  | .query => v.queryParams
  | .header => v.headerParams
  | .body => v.bodyParams ++ v.rawParams

theorem paramsAt_of (errorType : Option String) (m : MethodSpec) (source : ParamSource) :
    (MethodView.of errorType m).paramsAt source = (m.paramsFrom source).map ParamView.of := by
  cases source with
  | path => rfl
  | query => rfl
  | header => rfl
  | body => exact bodyParams_append_rawParams errorType m

/-- What an operation says about a parameter. -/
def ApiParameter.entry (p : ApiParameter) : String × String × Bool :=
  (p.location, p.name, p.required)

/-- What an operation has to say about a parameter that is taken from a place. -/
def ParamView.entry (p : ParamView) (source : ParamSource) : String × String × Bool :=
  (source.name, p.key, source = .path || !p.optional)

theorem entry_parameterOf (index : TypeIndex) {p : ParameterBinding} (h : p.source ≠ .body) :
    (parameterOf index p).map ApiParameter.entry =
      some ((ParamView.of p).entry p.source) := by
  rw [parameterOf, if_neg h]
  rfl

/-! ## Responses -/

theorem mem_keys_addErrorResponses {responses : Table String ApiResponse} {statuses : List Nat}
    {key : String} :
    key ∈ (addErrorResponses responses statuses).keys ↔
      key ∈ responses.keys ∨ ∃ status ∈ statuses, key = toString status := by
  induction statuses generalizing responses with
  | nil => simp [addErrorResponses]
  | cons status rest ih =>
    rw [addErrorResponses, List.foldl_cons, ← addErrorResponses, ih]
    split
    · rename_i hcontains
      have hmem : toString status ∈ responses.keys := by
        rw [Table.mem_keys_iff, ← Option.isSome_iff_exists]
        exact hcontains
      constructor
      · rintro (h | ⟨code, hcode, rfl⟩)
        · exact Or.inl h
        · exact Or.inr ⟨code, List.mem_cons_of_mem _ hcode, rfl⟩
      · rintro (h | ⟨code, hcode, rfl⟩)
        · exact Or.inl h
        · rcases List.mem_cons.1 hcode with rfl | hcode
          · exact Or.inl hmem
          · exact Or.inr ⟨code, hcode, rfl⟩
    · rw [Table.mem_keys_insert]
      simp only [List.mem_cons, exists_eq_or_imp]
      rw [← or_assoc, or_comm (a := key ∈ responses.keys)]

/-- A response that is there already stays. -/
theorem get?_addErrorResponses {responses : Table String ApiResponse} {statuses : List Nat}
    {key : String} {response : ApiResponse} (h : responses.get? key = some response) :
    (addErrorResponses responses statuses).get? key = some response := by
  induction statuses generalizing responses with
  | nil => exact h
  | cons status rest ih =>
    rw [addErrorResponses, List.foldl_cons, ← addErrorResponses]
    apply ih
    split
    · exact h
    · rename_i hcontains
      have hne : key ≠ toString status := by
        rintro rfl
        exact hcontains (by rw [Table.contains, h]; rfl)
      rw [Table.get?_insert, if_neg hne, h]

/-- The content type on success, which every body has. -/
theorem keys_content_successResponse (index : TypeIndex) {m : MethodSpec}
    (h : m.responseBody ≠ .empty) :
    ∃ type, m.effectiveContentType = some type ∧
      (successResponse index m).content.keys = [type] := by
  have hschema : ∃ schema, successSchema index m = some schema := by
    unfold successSchema
    split
    · exact absurd ‹_› h
    · exact ⟨_, rfl⟩
    · split <;> exact ⟨_, rfl⟩
    · exact ⟨_, rfl⟩
  have htype : ∃ type, m.effectiveContentType = some type := by
    unfold MethodSpec.effectiveContentType
    split
    · exact ⟨_, rfl⟩
    · exact ⟨_, rfl⟩
    · exact ⟨_, rfl⟩
    · split <;> exact ⟨_, rfl⟩
    · exact absurd ‹_› h
  obtain ⟨schema, hschema⟩ := hschema
  obtain ⟨type, htype⟩ := htype
  refine ⟨type, htype, ?_⟩
  simp only [successResponse, hschema, htype]
  rfl

/-! ## Request bodies -/

theorem requestBodyOf_isSome {index : TypeIndex} {m : MethodSpec} :
    (requestBodyOf index m).isSome = true ↔ m.paramsFrom .body ≠ [] := by
  unfold requestBodyOf
  split
  · rename_i hnil
    simp [hnil]
  · rename_i hcons
    simp [hcons]

theorem content_requestBodyOf {index : TypeIndex} {m : MethodSpec} {body : ApiRequestBody}
    (h : requestBodyOf index m = some body) :
    ∃ schema, body.content = .singleton m.requestContentType schema ∧
      (m.hasJsonBody = true → schema = bodySchema index (m.paramsFrom .body)) := by
  unfold requestBodyOf at h
  split at h
  · cases h
  · rename_i first rest hbody
    cases h
    refine ⟨_, rfl, fun hjson => ?_⟩
    rw [if_pos hjson, hbody]

/-! ## Operations -/

/-- An operation describes the code that is generated from a view of the method. -/
structure ApiOperation.Describes (operation : ApiOperation) (m : MethodSpec) (v : MethodView) :
    Prop where
  /-- The parameters outside the body, in order of declaration. -/
  parameters : operation.parameters.map ApiParameter.entry =
    (m.params.filter (·.source ≠ .body)).map fun p => (ParamView.of p).entry p.source
  /-- They are those that the code takes from each place. -/
  parameters_at : ∀ source ≠ ParamSource.body,
    (operation.parameters.map ApiParameter.entry).filter (·.1 = source.name) =
      (v.paramsAt source).map (·.entry source)
  body_iff : operation.requestBody.isSome = true ↔ v.bodyParams ≠ [] ∨ v.rawParams ≠ []
  body_content : ∀ body ∈ operation.requestBody, body.content.keys = [v.requestContentType]
  json_body : isJsonType v.requestContentType = true → ∀ body ∈ operation.requestBody,
    ∃ schema, body.content.get? v.requestContentType = some schema ∧
      (propertyNames schema).Perm (v.bodyParams.map ParamView.wireName) ∧
      requiredNames schema = (v.bodyParams.filter (! ·.optional)).map ParamView.wireName
  responses : ∀ key, key ∈ operation.responses.keys ↔
    key = toString v.status ∨ ∃ status ∈ m.errorStatus.values, key = toString status
  success : m.responseBody ≠ .empty → ∃ response type,
    operation.responses.get? (toString v.status) = some response ∧
      v.responseContentType = some type ∧ response.content.keys = [type]

section Describes

variable {index : TypeIndex} {m : MethodSpec} {errorType : Option String}

theorem entries_parameters (params : List ParameterBinding) :
    (params.filterMap (parameterOf index)).map ApiParameter.entry =
      (params.filter (·.source ≠ .body)).map fun p => (ParamView.of p).entry p.source := by
  induction params with
  | nil => rfl
  | cons p rest ih =>
    by_cases hbody : p.source = .body
    · have hnone : parameterOf index p = none := if_pos hbody
      rw [List.filterMap_cons_none hnone, ih]
      simp [hbody]
    · obtain ⟨parameter, hparameter, hentry⟩ :=
        Option.map_eq_some_iff.1 (entry_parameterOf index hbody)
      rw [List.filterMap_cons_some hparameter, List.map_cons, hentry, ih]
      simp [hbody]

theorem ParamSource.name_inj {a b : ParamSource} : a.name = b.name ↔ a = b := by
  cases a <;> cases b <;> decide

theorem entries_at {source : ParamSource} (hsource : source ≠ .body) :
    ((m.params.filter (·.source ≠ .body)).map fun p => (ParamView.of p).entry p.source).filter
        (·.1 = source.name) =
      ((MethodView.of errorType m).paramsAt source).map (·.entry source) := by
  rw [paramsAt_of, MethodSpec.paramsFrom, List.filter_map, List.filter_filter, List.map_map]
  have hfilter : m.params.filter (fun p =>
      ((fun entry : String × String × Bool => decide (entry.1 = source.name)) ∘
        fun p => (ParamView.of p).entry p.source) p && decide (p.source ≠ .body)) =
      m.params.filter (·.source = source) := by
    refine List.filter_congr fun p _ => ?_
    by_cases heq : p.source = source
    · simp [ParamView.entry, heq, hsource]
    · simp [ParamView.entry, ParamSource.name_inj, heq]
  rw [hfilter]
  refine List.map_congr_left fun p hp => ?_
  have heq : p.source = source := by simpa using (List.mem_filter.1 hp).2
  rw [heq]
  rfl

theorem bodyParams_or_rawParams :
    (MethodView.of errorType m).bodyParams ≠ [] ∨ (MethodView.of errorType m).rawParams ≠ [] ↔
      m.paramsFrom .body ≠ [] := by
  have hbody := paramsAt_of errorType m .body
  rw [MethodView.paramsAt] at hbody
  rw [← not_and_or, ← List.append_eq_nil_iff, hbody, List.map_eq_nil_iff]

/-- **Document and code agree.** The operation of a method describes the view of the method, if no
two parameters have one key in one place. -/
theorem describes_operationOf (interface : String)
    (hkeys : ∀ source, ((m.paramsFrom source).map (·.key)).Nodup) :
    (operationOf index interface m).Describes m (MethodView.of errorType m) := by
  constructor
  case parameters => exact entries_parameters m.params
  case parameters_at =>
    intro source hsource
    rw [operationOf, entries_parameters]
    exact entries_at hsource
  case body_iff => exact requestBodyOf_isSome.trans bodyParams_or_rawParams.symm
  case body_content =>
    intro body hbody
    obtain ⟨schema, hcontent, -⟩ := content_requestBodyOf hbody
    rw [hcontent]
    rfl
  case json_body =>
    intro hjson body hbody
    obtain ⟨schema, hcontent, hschema⟩ := content_requestBodyOf hbody
    have hparams : (MethodView.of errorType m).bodyParams =
        (m.paramsFrom .body).map ParamView.of := if_pos hjson
    have hnames : ∀ params : List ParameterBinding,
        (params.map ParamView.of).map ParamView.wireName = params.map (·.key) := by
      intro params
      rw [List.map_map]
      exact List.map_congr_left fun p _ => wireName_of p
    have hproperties : ((m.paramsFrom .body).map fun p =>
        (p.key, typeSchema index p.type)).map Prod.fst = (m.paramsFrom .body).map (·.key) := by
      rw [List.map_map]
      rfl
    refine ⟨schema, ?_, ?_, ?_⟩
    · rw [hcontent]
      exact if_pos rfl
    · rw [hschema hjson, hparams, hnames, ← hproperties]
      apply propertyNames_recordSchema
      rw [hproperties]
      exact hkeys .body
    · rw [hschema hjson, hparams, bodySchema, requiredNames_recordSchema, List.filter_map, hnames]
      rfl
  case responses =>
    intro key
    rw [operationOf, mem_keys_addErrorResponses]
    exact or_congr_left List.mem_singleton
  case success =>
    intro hbody
    obtain ⟨type, htype, hkeys⟩ := keys_content_successResponse index hbody
    have hfirst : (Table.singleton (toString m.responseStatus) (successResponse index m)).get?
        (toString m.responseStatus) = some (successResponse index m) := if_pos rfl
    exact ⟨_, type, get?_addErrorResponses hfirst, htype, hkeys⟩

end Describes

/-- **The document describes what the generated code takes.** In a document that was made of some
services, each method of a service that selects the document has its operation, and the operation
describes the view of the method, if no two of its parameters have one key in one place. -/
theorem operation_describes {index : TypeIndex} {info : DocumentInfo}
    {services : List ServiceSpec} {d : ApiDocument}
    (h : ApiDocument.aggregate index info services = .ok d) {s : ServiceSpec} (hs : s ∈ services)
    (hswagger : s.has .swagger = true) {m : MethodSpec} (hm : m ∈ s.methods)
    (hkeys : ∀ source, ((m.paramsFrom source).map (·.key)).Nodup) :
    ∃ operation, d.operation? m.verb.name m.uriTemplate = some operation ∧
      operation.Describes m (MethodView.of s.errorType m) := by
  have hmem : ⟨s.interfaceName, m⟩ ∈ participants services :=
    List.mem_flatMap.2 ⟨s, List.mem_filter.2 ⟨hs, hswagger⟩, List.mem_map_of_mem hm⟩
  exact ⟨_, operation?_of_mem h hmem, describes_operationOf s.interfaceName hkeys⟩

/-- A method with a parameter in each place. -/
theorem operation_describes_search :
    ∃ s m d, ServiceSpec.build {} "@gtg" searchTrait = .ok (some s) ∧ s.has .swagger = true ∧
      m ∈ s.methods ∧ (∀ source, ((m.paramsFrom source).map (·.key)).Nodup) ∧
      ApiDocument.aggregate {} {} [s] = .ok d ∧
      ∃ operation, d.operation? m.verb.name m.uriTemplate = some operation ∧
        operation.parameters.map ApiParameter.entry =
          [("path", "shelf", true), ("query", "p", false), ("header", "X-Token", true)] := by
  have hbuild : (ServiceSpec.build {} "@gtg" searchTrait).toOption.join.any (fun s =>
      s.has .swagger ∧ ((participants [s]).map Participant.routeKey).Nodup ∧
      s.methods.any fun m =>
        (∀ source ∈ [ParamSource.path, .query, .header, .body],
          ((m.paramsFrom source).map (·.key)).Nodup) ∧
        (m.params.filter (·.source ≠ .body)).map (fun p => (ParamView.of p).entry p.source) =
          [("path", "shelf", true), ("query", "p", false), ("header", "X-Token", true)]) = true := by
    decide +kernel
  obtain ⟨s, hs, hfacts⟩ := (Option.any_eq_true _ _).1 hbuild
  obtain ⟨hswagger, hroutes, hmethods⟩ := of_decide_eq_true hfacts
  obtain ⟨m, hm, hfacts⟩ := List.any_eq_true.1 hmethods
  obtain ⟨hkeys, hentries⟩ := of_decide_eq_true hfacts
  have hkeys : ∀ source, ((m.paramsFrom source).map (·.key)).Nodup :=
    fun source => hkeys source (by cases source <;> decide)
  obtain ⟨d, hd⟩ := exists_aggregate hroutes {} {}
  obtain ⟨operation, hoperation, hdescribes⟩ :=
    operation_describes hd (List.mem_singleton_self s) hswagger hm hkeys
  exact ⟨s, m, d, eq_ok_of_toOption_join hs, hswagger, hm, hkeys, hd, operation, hoperation,
    hdescribes.parameters.trans hentries⟩

end TransportGen
