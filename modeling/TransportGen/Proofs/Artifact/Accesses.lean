import TransportGen.Proofs.Artifact.Fragments
import TransportGen.Proofs.Service.WireNames

/-!
# Fields that generated code accesses

A response is checked once, when the method is built, and its code is generated from what was
checked, on the server and on the client. Where the fields of the success value are known, the code
accesses only these (`accesses_known`). Bodies and headers that need a success value are generated
only where there is one.
-/

namespace TransportGen

open Text (quote)

/-- The text accesses no fields but the given ones, and apart from these only the given texts are put
into it. -/
structure AccessesOnly (fields givens : List String) (text : String) (fragments : List Fragment) :
    Prop extends IsMadeOf text fragments where
  isFrom : ∀ fragment ∈ fragments, fragment.IsFrom fields givens

namespace MethodView

/-- The texts that are put into the code of a response: types, and the names and literal values of
headers. -/
def insertions (v : MethodView) (errorType : String) : List String :=
  [v.okType, errorType, responseStruct v.pascal] ++
    v.responseHeaders.flatMap HeaderView.insertions

/-- The code of a response, on both sides, accesses only the given fields. -/
structure CodeAccesses (v : MethodView) (errorType : String) (fields : List String) : Prop where
  serverBody :
    AccessesOnly fields (v.insertions errorType) v.serverBody.expr v.serverBody.fragments
  serverHeaders : ∀ h ∈ v.responseHeaders,
    AccessesOnly fields (v.insertions errorType) h.serverExpr h.fragments
  headerFields : ∀ h ∈ v.responseHeaders, ∀ name ∈ h.field?, name ∈ fields
  wireFields : ∀ w ∈ v.wireFields, w.name ∈ fields
  clientSteps : ∀ step ∈ v.clientSteps,
    AccessesOnly fields (v.insertions errorType) step.code step.fragments

end MethodView

/-- The struct of the response body, if the method has one, has the given fields in their order and
JSON names exactly for those that directives name. -/
structure MethodSpec.WireFits (m : MethodSpec) (fields : List FieldDecl) (wire : List WireField) :
    Prop where
  all : wire ≠ [] → wire.map (fun w => (w.name, w.type)) = fields.map fun f => (f.name, f.type)
  json : wire ≠ [] → m.responseBody = .json
  tag : ∀ w ∈ wire, w.tag = m.responseJsonTags.get? w.name
  named : ∀ key ∈ m.responseJsonTags.keys, key ∈ wire.map (·.name)

/-- The code of a response takes nothing from the success value that is not there. -/
structure MethodSpec.ResponseCovered (m : MethodSpec) (errorType : Option String) : Prop where
  /-- A raw body is a text or bytes. -/
  raw : m.responseBody = .raw →
    ∃ type, m.okType = some type ∧ (isTextType type = true ∨ isBytesType type = true)
  /-- A body from a field has a value. -/
  field : ∀ name, m.responseBody = .field name → ∃ type, m.okType = some type
  /-- A header from a field has a value. -/
  header : ∀ h ∈ m.responseHeaders, ∀ name, h.value = .field name → ∃ type, m.okType = some type
  /-- Known fields are the only ones. -/
  known : ∀ fields, m.responseFields = some fields →
    (MethodView.of errorType m).CodeAccesses (errorType.getD "") (fields.map (·.name)) ∧
      m.WireFits fields (MethodView.of errorType m).wireFields

theorem MethodSpec.WireFits.name_mem {m : MethodSpec} {fields : List FieldDecl}
    {wire : List WireField} (h : m.WireFits fields wire) :
    ∀ w ∈ wire, w.name ∈ fields.map (·.name) := by
  intro w hw
  have hmem : (w.name, w.type) ∈ fields.map fun f => (f.name, f.type) := by
    rw [← h.all (List.ne_nil_of_mem hw)]
    exact List.mem_map_of_mem hw
  obtain ⟨f, hf, heq⟩ := List.mem_map.1 hmem
  rw [← (Prod.mk.inj heq).1]
  exact List.mem_map_of_mem hf

/-! ## The view of a method -/

section Views

variable {pascal : String} {wire : List WireField} {body : ResponseBody} {name : String}

/-- The server accesses the fields of the body's struct, or the field that is the body. -/
theorem of_mem_serverBody (h : name ∈ (serverBodyOf pascal wire body).accesses) :
    name ∈ wire.map (·.name) ∨ body = .field name := by
  unfold serverBodyOf at h
  split at h
  · split at h
    · exact absurd h List.not_mem_nil
    · exact Or.inl h
  · rw [ServerBody.accesses, List.mem_singleton] at h
    rw [h]
    exact Or.inr rfl
  · exact absurd h List.not_mem_nil
  · exact absurd h List.not_mem_nil

theorem field?_eq_some_iff {h : HeaderView} : h.field? = some name ↔ h.value = .field name := by
  unfold HeaderView.field?
  cases h.value with
  | literal text => simp
  | field other => simp

theorem nameLiteral_mem_insertions {v : MethodView} {errorType : String} {h : HeaderView}
    (hmem : h ∈ v.responseHeaders) : h.nameLiteral ∈ v.insertions errorType := by
  apply List.mem_append_right
  apply List.mem_flatMap.2
  refine ⟨h, hmem, ?_⟩
  unfold HeaderView.insertions
  cases h.value with
  | literal text => exact List.mem_cons_self
  | field other => exact List.mem_cons_self

theorem type_of_serverBody {type : String} {names : List String}
    (h : serverBodyOf pascal wire body = .wire type names) : type = responseStruct pascal := by
  unfold serverBodyOf at h
  split at h
  · split at h
    · cases h
    · exact (ServerBody.wire.inj h).1.symm
  · cases h
  · cases h
  · cases h

variable {okType error : String} {headers : List HeaderView} {step : ClientStep}

/-- What a step of the client accesses, and what is put into it. -/
theorem of_mem_clientSteps (h : step ∈ clientStepsOf body okType error pascal wire headers) :
    (∀ name ∈ step.accesses,
      name ∈ wire.map (·.name) ∨ body = .field name ∨ ∃ h ∈ headers, h.field? = some name) ∧
    ∀ text ∈ step.insertions,
      text ∈ [okType, error, responseStruct pascal] ∨ ∃ h ∈ headers, text = h.nameLiteral := by
  unfold clientStepsOf at h
  rcases List.mem_append.1 h with h | h
  · cases body with
    | json =>
      simp only at h
      split at h
      · rw [List.mem_singleton] at h
        subst h
        simp [ClientStep.accesses, ClientStep.insertions]
      · rw [List.mem_cons, List.mem_singleton] at h
        rcases h with rfl | rfl
        · simp [ClientStep.accesses, ClientStep.insertions]
        · simp only [ClientStep.accesses, ClientStep.insertions]
          exact ⟨fun name hname => Or.inl hname, by simp⟩
    | field name =>
      rw [List.mem_cons, List.mem_singleton] at h
      rcases h with rfl | rfl
      · simp [ClientStep.accesses, ClientStep.insertions]
      · simp [ClientStep.accesses, ClientStep.insertions]
    | raw =>
      simp only at h
      split at h
      · rw [List.mem_singleton] at h
        subst h
        simp [ClientStep.accesses, ClientStep.insertions]
      · rw [List.mem_singleton] at h
        subst h
        simp [ClientStep.accesses, ClientStep.insertions]
    | empty =>
      rw [List.mem_singleton] at h
      subst h
      simp [ClientStep.accesses, ClientStep.insertions]
  · obtain ⟨header, hheader, hfield⟩ := List.mem_filterMap.1 h
    obtain ⟨name, hname, rfl⟩ := Option.map_eq_some_iff.1 hfield
    constructor
    · intro other hother
      rw [ClientStep.accesses, List.mem_singleton] at hother
      rw [hother]
      exact Or.inr (Or.inr ⟨header, hheader, hname⟩)
    · intro text htext
      rw [ClientStep.insertions, List.mem_singleton] at htext
      exact Or.inr ⟨header, hheader, htext⟩

end Views

/-! ## Built methods -/

section Built

variable {index : TypeIndex} {interface : String} {m : MethodDecl} {d : MethodDirectives}
  {spec : MethodSpec}

/-- The checks of a response, said of the method that is built. -/
theorem MethodSpec.Built.responseFits (h : MethodSpec.Built index interface m d spec) :
    BodyFits spec.okType spec.responseFields spec.responseBody ∧
      (∀ header ∈ spec.responseHeaders, ∀ name, header.value = .field name →
        FieldFits spec.okType spec.responseFields name) ∧
      TagsFit spec.responseFields spec.responseJsonTags spec.responseBody := by
  have hfits := checkResponse_eq_ok_iff.1 h.response
  rw [h.eq]
  exact ⟨hfits.bodyFits, hfits.headers, hfits.tags⟩

/-- Fields of the response body's struct. -/
theorem MethodSpec.Built.wireFits (h : MethodSpec.Built index interface m d spec)
    {fields : List FieldDecl} (hfields : spec.responseFields = some fields) :
    spec.WireFits fields (wireFieldsOf spec) := by
  obtain ⟨-, -, htags⟩ := h.responseFits
  rw [hfields] at htags
  unfold wireFieldsOf
  rw [hfields]
  cases hempty : spec.responseJsonTags.isEmpty with
  | true =>
    refine ⟨fun hne => absurd rfl hne, fun hne => absurd rfl hne, ?_, ?_⟩
    · intro w hw
      exact absurd hw List.not_mem_nil
    · intro key hkey
      rw [Table.isEmpty_iff.1 hempty] at hkey
      exact absurd hkey List.not_mem_nil
  | false =>
    refine ⟨fun _ => ?_, fun _ => htags.json hempty, ?_, ?_⟩
    · simp
    · intro w hw
      obtain ⟨f, -, rfl⟩ := List.mem_map.1 hw
      rfl
    · intro key hkey
      simpa using htags.names key hkey

theorem MethodSpec.Built.responseCovered (h : MethodSpec.Built index interface m d spec)
    (errorType : Option String) : spec.ResponseCovered errorType := by
  obtain ⟨hbody, hheaders, -⟩ := h.responseFits
  refine ⟨hbody.raw, fun name hname => (hbody.field name hname).okType,
    fun header hheader name hname => (hheaders header hheader name hname).okType, ?_⟩
  intro fields hfields
  have hwire := h.wireFits hfields
  have hbodyField : ∀ name, spec.responseBody = .field name → name ∈ fields.map (·.name) :=
    fun name hname => (hbody.field name hname).known fields hfields
  have hheaderField : ∀ header ∈ (MethodView.of errorType spec).responseHeaders,
      ∀ name ∈ header.field?, name ∈ fields.map (·.name) := by
    intro header hheader name hname
    obtain ⟨declared, hdeclared, rfl⟩ := List.mem_map.1 hheader
    exact (hheaders declared hdeclared name (field?_eq_some_iff.1 hname)).known fields hfields
  have hwireField : ∀ name ∈ (wireFieldsOf spec).map (·.name), name ∈ fields.map (·.name) := by
    intro name hname
    obtain ⟨w, hw, rfl⟩ := List.mem_map.1 hname
    exact hwire.name_mem w hw
  refine ⟨⟨⟨ServerBody.isMadeOf _, ?_⟩, ?_, hheaderField, hwire.name_mem, ?_⟩, hwire⟩
  · apply ServerBody.isFrom
    · intro name hname
      rcases of_mem_serverBody hname with hname | hname
      · exact hwireField name hname
      · exact hbodyField name hname
    · intro type names htype
      rw [type_of_serverBody htype]
      exact List.mem_append_left _ (by simp [MethodView.of])
  · intro header hheader
    refine ⟨header.isMadeOf, HeaderView.isFrom (hheaderField header hheader) ?_⟩
    intro text htext
    exact List.mem_append_right _ (List.mem_flatMap.2 ⟨header, hheader, htext⟩)
  · intro step hstep
    obtain ⟨haccesses, hinsertions⟩ := of_mem_clientSteps hstep
    refine ⟨step.isMadeOf, ClientStep.isFrom ?_ ?_⟩
    · intro name hname
      rcases haccesses name hname with hname | hname | ⟨header, hheader, hname⟩
      · exact hwireField name hname
      · exact hbodyField name hname
      · exact hheaderField header hheader name hname
    · intro text htext
      rcases hinsertions text htext with htext | ⟨header, hheader, rfl⟩
      · exact List.mem_append_left _ htext
      · exact nameLiteral_mem_insertions hheader

end Built

/-- **Generated code accesses fields that are there.** -/
theorem accesses_known {index : TypeIndex} {marker : String} {decl : InterfaceDecl}
    {s : ServiceSpec} (h : ServiceSpec.build index marker decl = .ok (some s)) :
    ∀ m ∈ s.methods, m.ResponseCovered s.errorType := by
  obtain ⟨_, -, hmethods⟩ := (ServiceSpec.built_of_build h).methods
  intro spec hspec
  obtain ⟨m, -, d, -, hbuilt⟩ := exists_of_mem_right (buildMethods_ok hmethods) hspec
  exact hbuilt.responseCovered s.errorType

/-- A trait with methods that answer with a struct: with a JSON name for one of its fields and another
field in a header, and with one field as the body. -/
def loanTrait : InterfaceDecl :=
  { searchTrait with
    methods := searchTrait.methods.flatMap fun m =>
      [ { m with
          name := "load"
          docs := ["@gtg response-json-tag id isbn", "@gtg response-header X-Title: {title}"]
          params := []
          okType := some "Book" },
        { m with
          name := "name"
          docs := ["@gtg response-body title"]
          params := []
          okType := some "Book" } ] }

theorem accesses_known_loan :
    ∃ s, ServiceSpec.build bookIndex "@gtg" loanTrait = .ok (some s) ∧
      s.views.map (·.serverBody) = [.wire "LoadResponse" ["id", "title"], .field "title"] ∧
      (∀ m ∈ s.methods, m.responseFields.isSome = true) ∧
      ∀ m ∈ s.methods, m.ResponseCovered s.errorType := by
  have hbuild : (ServiceSpec.build bookIndex "@gtg" loanTrait).toOption.join.any (fun s =>
      s.views.map (·.serverBody) = [.wire "LoadResponse" ["id", "title"], .field "title"] ∧
        ∀ m ∈ s.methods, m.responseFields.isSome = true) = true := by
    decide +kernel
  obtain ⟨s, hs, hbodies, hfields⟩ := exists_ok_of_any hbuild
  exact ⟨s, hs, hbodies, hfields, accesses_known hs⟩

end TransportGen
