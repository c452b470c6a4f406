import TransportGen.Proofs.Service.Binding
import TransportGen.Proofs.Table
import TransportGen.Service.Build

/-!
# Responses that fit their success types

The checks of a response look at the body, at each header and at the JSON names. What they ask is
`ResponseFits`.

* `checkBody_eq_ok_iff`, `checkHeader_eq_ok_iff`, `checkResponseTags_eq_ok_iff`: one check each.
* `checkResponse_eq_ok_iff`: all of them succeed exactly if the response fits.
-/

namespace TransportGen

/-- There is a success value, and if its fields are known, then the name is that of one. -/
structure FieldFits (okType : Option String) (fields : Option (List FieldDecl)) (name : String) :
    Prop where
  okType : ∃ type, okType = some type
  known : ∀ fs, fields = some fs → name ∈ fs.map (·.name)

/-- The body can be made from the success value. -/
structure BodyFits (okType : Option String) (fields : Option (List FieldDecl))
    (body : ResponseBody) : Prop where
  raw : body = .raw →
    ∃ type, okType = some type ∧ (isTextType type = true ∨ isBytesType type = true)
  field : ∀ name, body = .field name → FieldFits okType fields name

/-- The JSON names are for fields of a known struct, which is the JSON body as a whole. -/
structure TagsFit (fields : Option (List FieldDecl)) (tags : Table String String)
    (body : ResponseBody) : Prop where
  json : tags.isEmpty = false → body = .json
  known : tags.isEmpty = false → ∃ fs, fields = some fs
  names : ∀ key ∈ tags.keys, key ∈ (fields.getD []).map (·.name)

/-- A response fits its success type. -/
structure ResponseFits (okType : Option String) (d : MethodDirectives) (body : ResponseBody)
    (fields : Option (List FieldDecl)) : Prop where
  bodyFits : BodyFits okType fields body
  headers : ∀ h ∈ d.responseHeaders, ∀ name, h.value = .field name →
    FieldFits okType fields name
  tags : TagsFit fields d.responseJsonTags body

section Checks

variable {okType : Option String} {fields : Option (List FieldDecl)} {body : ResponseBody}

theorem lacksField_eq_false_iff {name : String} :
    lacksField fields name = false ↔ ∀ fs, fields = some fs → name ∈ fs.map (·.name) := by
  cases fields with
  | none => simp [lacksField]
  | some fs => simp [lacksField]

/-- Where a field is read, there has to be a value that has it. -/
theorem check_field_eq_ok_iff {name : String} {noField : String → ContractProblem}
    {noValue : ContractProblem} :
    (match okType with
      | some type => if lacksField fields name then .error (noField type) else .ok ()
      | none => .error noValue : Except ContractProblem Unit) = .ok () ↔
      FieldFits okType fields name := by
  cases okType with
  | none =>
    constructor
    · intro h
      cases h
    · rintro ⟨⟨type, htype⟩, -⟩
      cases htype
  | some type =>
    cases hlacks : lacksField fields name with
    | true =>
      constructor
      · intro h
        cases h
      · intro h
        rw [lacksField_eq_false_iff.2 h.known] at hlacks
        cases hlacks
    | false => exact iff_of_true rfl ⟨⟨type, rfl⟩, lacksField_eq_false_iff.1 hlacks⟩

theorem checkBody_eq_ok_iff :
    checkBody okType fields body = .ok () ↔ BodyFits okType fields body := by
  cases body with
  | json | empty =>
    refine iff_of_true rfl ⟨?_, ?_⟩
    · intro h
      cases h
    · intro name h
      cases h
  | field name =>
    have hcheck : checkBody okType fields (.field name) = .ok () ↔ FieldFits okType fields name :=
      check_field_eq_ok_iff
    rw [hcheck]
    constructor
    · intro h
      refine ⟨?_, ?_⟩
      · intro hraw
        cases hraw
      · intro other hother
        rwa [← ResponseBody.field.inj hother]
    · intro h
      exact h.field name rfl
  | raw =>
    have hiff : BodyFits okType fields .raw ↔
        ∃ type, okType = some type ∧ (isTextType type = true ∨ isBytesType type = true) := by
      constructor
      · intro h
        exact h.raw rfl
      · intro h
        refine ⟨fun _ => h, ?_⟩
        intro name hfield
        cases hfield
    rw [hiff]
    cases okType with
    | none => simp [checkBody]
    | some type =>
      by_cases htype : isTextType type = true ∨ isBytesType type = true
      · simp [checkBody, htype]
      · simp [checkBody, htype]

theorem checkHeader_eq_ok_iff {h : ResponseHeader} : checkHeader okType fields h = .ok () ↔
    ∀ name, h.value = .field name → FieldFits okType fields name := by
  unfold checkHeader
  cases h.value with
  | literal text =>
    refine iff_of_true rfl ?_
    intro name hvalue
    cases hvalue
  | field name =>
    refine check_field_eq_ok_iff.trans ?_
    constructor
    · intro hfits other hother
      rwa [← HeaderValue.field.inj hother]
    · intro hall
      exact hall name rfl

theorem checkResponseTags_eq_ok_iff {tags : Table String String} :
    checkResponseTags okType fields tags body = .ok () ↔ TagsFit fields tags body := by
  unfold checkResponseTags
  cases hempty : tags.isEmpty with
  | true =>
    have hkeys : ∀ key, key ∉ tags.keys := by
      intro key hkey
      rw [Table.isEmpty_iff.1 hempty] at hkey
      exact absurd hkey List.not_mem_nil
    have hfilled : ¬tags.isEmpty = false := by simp [hempty]
    exact iff_of_true rfl ⟨fun h => (hfilled h).elim, fun h => (hfilled h).elim,
      fun key hkey => (hkeys key hkey).elim⟩
  | false =>
    simp only [Bool.false_eq_true, if_false]
    cases fields with
    | none =>
      constructor
      · intro h
        cases h
      · intro h
        obtain ⟨fs, hfs⟩ := h.known hempty
        cases hfs
    | some fs =>
      have hnames : (tags.keys.find? fun key => !fs.any (·.name = key)) = none ↔
          ∀ key ∈ tags.keys, key ∈ fs.map (·.name) := by
        simp
      cases hmissing : tags.keys.find? fun key => !fs.any (·.name = key) with
      | some key =>
        simp only [hmissing]
        constructor
        · intro h
          exact (throw_bind_ne_ok h).elim
        · intro h
          rw [hnames.2 h.names] at hmissing
          cases hmissing
      | none =>
        simp only [hmissing]
        rw [hnames] at hmissing
        by_cases hjson : body = .json
        · rw [if_neg (not_not_intro hjson)]
          exact iff_of_true rfl ⟨fun _ => hjson, fun _ => ⟨fs, rfl⟩, hmissing⟩
        · rw [if_pos hjson]
          constructor
          · intro h
            cases h
          · intro h
            exact (hjson (h.json hempty)).elim

/-- **The checks of a response.** They succeed exactly if the response fits its success type. -/
theorem checkResponse_eq_ok_iff {d : MethodDirectives} :
    checkResponse okType d body fields = .ok () ↔ ResponseFits okType d body fields := by
  have hheaders : d.responseHeaders.forM (checkHeader okType fields) = .ok () ↔
      ∀ h ∈ d.responseHeaders, ∀ name, h.value = .field name → FieldFits okType fields name := by
    simp only [forM_eq_ok_iff, checkHeader_eq_ok_iff]
  unfold checkResponse
  constructor
  · intro h
    obtain ⟨_, hbody, h⟩ := bind_eq_ok.1 h
    obtain ⟨_, hheader, htags⟩ := bind_eq_ok.1 h
    exact ⟨checkBody_eq_ok_iff.1 hbody, hheaders.1 hheader, checkResponseTags_eq_ok_iff.1 htags⟩
  · intro h
    refine bind_eq_ok.2 ⟨(), checkBody_eq_ok_iff.2 h.bodyFits, bind_eq_ok.2 ⟨(), ?_, ?_⟩⟩
    · exact hheaders.2 h.headers
    · exact checkResponseTags_eq_ok_iff.2 h.tags

end Checks

end TransportGen
