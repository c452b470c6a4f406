import TransportGen.Proofs.Service.Build
import TransportGen.View

/-!
# The parameters of a built service

A built service has one contract for each marked method, and in it each declared parameter travels
in exactly one place (`parameters_bound`). The views of a method share its parameters out among the
same places (`MethodView.Shares`).
-/

namespace TransportGen

/-! ## Contracts -/

/-- A contract carries the parameters of a method, as the template and the directives in the doc
comment of the method say. -/
structure MethodSpec.Carries (m : MethodDecl) (queries : List QueryDirective)
    (headers : List HeaderDirective) (tags : List (String × String)) (spec : MethodSpec) :
    Prop where
  name : spec.name = m.name
  vars : TransportGen.pathVariables spec.uriTemplate = .ok spec.pathVariables
  vars_nodup : spec.pathVariables.Nodup
  path_names : ((spec.paramsFrom .path).map (·.name)).Perm spec.pathVariables
  params : AllBound m.params spec.pathVariables queries headers tags spec.params
  rawBody : isJsonType spec.requestContentType = false →
    (spec.paramsFrom .body).length ≤ 1 ∧
      (∀ p ∈ spec.paramsFrom .body, isTextType p.type = true ∨ isBytesType p.type = true) ∧
      tags = []

theorem AllBound.map_name {params : List ParamDecl} {vars : List String}
    {queries : List QueryDirective} {headers : List HeaderDirective}
    {tags : List (String × String)} {bindings : List ParameterBinding}
    (h : AllBound params vars queries headers tags bindings) :
    bindings.map (·.name) = params.map (·.name) := by
  have hnames := h.declared.imp fun p b h => h.1
  clear h
  induction hnames with
  | nil => rfl
  | cons heq _ ih => rw [List.map_cons, List.map_cons, heq, ih]

theorem AllBound.mem_vars_iff {params : List ParamDecl} {vars : List String}
    {queries : List QueryDirective} {headers : List HeaderDirective}
    {tags : List (String × String)} {bindings : List ParameterBinding}
    (h : AllBound params vars queries headers tags bindings) {name : String} :
    name ∈ vars ↔ ∃ b ∈ bindings, b.source = .path ∧ b.name = name := by
  constructor
  · intro hname
    obtain ⟨p, hp, rfl⟩ := h.vars name hname
    have hmem : p.name ∈ bindings.map (·.name) := by
      rw [h.map_name]
      exact List.mem_map_of_mem hp
    obtain ⟨b, hb, heq⟩ := List.mem_map.1 hmem
    exact ⟨b, hb, (h.bound b hb).path_iff.2 (heq ▸ hname), heq⟩
  · rintro ⟨b, hb, hpath, rfl⟩
    exact (h.bound b hb).path_iff.1 hpath

theorem AllBound.path_names {params : List ParamDecl} {vars : List String}
    {queries : List QueryDirective} {headers : List HeaderDirective}
    {tags : List (String × String)} {bindings : List ParameterBinding}
    (h : AllBound params vars queries headers tags bindings) (hvars : vars.Nodup)
    (hnames : (params.map (·.name)).Nodup) :
    ((bindings.filter (·.source = .path)).map (·.name)).Perm vars := by
  have hnodup : ((bindings.filter (·.source = .path)).map (·.name)).Nodup := by
    rw [← h.map_name] at hnames
    exact hnames.sublist (List.filter_sublist.map _)
  refine (List.perm_ext_iff_of_nodup hnodup hvars).2 fun name => ?_
  simp only [List.mem_map, List.mem_filter, decide_eq_true_eq, and_assoc, h.mem_vars_iff]

theorem MethodSpec.Built.carries {index : TypeIndex} {interface : String} {m : MethodDecl}
    {d : MethodDirectives} {spec : MethodSpec} {tags : List (String × String)}
    (h : MethodSpec.Built index interface m d spec) (htags : d.jsonTags = Table.ofList tags)
    (hnames : (m.params.map ParamDecl.name).Nodup) :
    Carries m d.queries d.headers tags spec := by
  obtain ⟨hvars, hnodup⟩ := distinctVariables_eq_ok_iff.1 h.vars
  have hbound := allBound_of_bindParams htags h.params
  have hname : spec.name = m.name := by rw [h.eq]
  have htemplate : spec.uriTemplate = uriTemplateOf interface m d := by rw [h.eq]
  have htype : spec.requestContentType = d.contentType.getD defaultContentType := by rw [h.eq]
  refine ⟨hname, htemplate ▸ hvars, hnodup, hbound.path_names hnodup hnames, hbound, ?_⟩
  rw [htype]
  intro hraw
  obtain ⟨hlength, htypes, hempty⟩ := checkRawBody_ok htags h.rawBody hraw
  refine ⟨hlength, fun p hp => ?_, hempty⟩
  obtain ⟨hmem, hbody⟩ := List.mem_filter.1 hp
  exact htypes p hmem (by simpa using hbody)

/-! ## Views -/

/-- The parameters of a view are shared out among the places where they travel. -/
structure MethodView.Shares (v : MethodView) (vars : List String) : Prop where
  perm : (v.pathParams ++ v.queryParams ++ v.headerParams ++ (v.bodyParams ++ v.rawParams)).Perm
    v.params
  path_names : (v.pathParams.map (·.name)).Perm vars
  one_body : v.bodyParams = [] ∨ v.rawParams = []
  raw_length : v.rawParams.length ≤ 1

theorem bodyParams_append_rawParams (errorType : Option String) (spec : MethodSpec) :
    (MethodView.of errorType spec).bodyParams ++ (MethodView.of errorType spec).rawParams =
      (spec.paramsFrom .body).map ParamView.of := by
  simp only [MethodView.of]
  split
  · exact List.append_nil _
  · rfl

theorem bodyParams_eq_nil_or (errorType : Option String) (spec : MethodSpec) :
    (MethodView.of errorType spec).bodyParams = [] ∨
      (MethodView.of errorType spec).rawParams = [] := by
  simp only [MethodView.of]
  split
  · exact Or.inr rfl
  · exact Or.inl rfl

theorem length_rawParams_le {spec : MethodSpec}
    (h : isJsonType spec.requestContentType = false → (spec.paramsFrom .body).length ≤ 1)
    (errorType : Option String) : (MethodView.of errorType spec).rawParams.length ≤ 1 := by
  simp only [MethodView.of]
  split
  · exact Nat.zero_le 1
  · rename_i hjson
    rw [List.length_map]
    exact h (by simpa [MethodSpec.hasJsonBody] using hjson)

theorem perm_of_sources (params : List ParameterBinding) :
    (params.filter (·.source = .path) ++ (params.filter (·.source = .query) ++
      (params.filter (·.source = .header) ++ params.filter (·.source = .body)))).Perm params := by
  induction params with
  | nil => exact .nil
  | cons p rest ih =>
    cases hsource : p.source with
    | path => simpa [hsource] using ih
    | query => simpa [hsource] using List.perm_middle.trans (ih.cons p)
    | header =>
      rw [← List.append_assoc] at ih
      simpa [hsource] using List.perm_middle.trans (ih.cons p)
    | body =>
      rw [← List.append_assoc, ← List.append_assoc] at ih
      simpa [hsource] using List.perm_middle.trans (ih.cons p)

theorem MethodSpec.Carries.shares {m : MethodDecl} {queries : List QueryDirective}
    {headers : List HeaderDirective} {tags : List (String × String)} {spec : MethodSpec}
    (h : MethodSpec.Carries m queries headers tags spec) (errorType : Option String) :
    (MethodView.of errorType spec).Shares spec.pathVariables := by
  refine ⟨?_, ?_, bodyParams_eq_nil_or errorType spec,
    length_rawParams_le (fun hraw => (h.rawBody hraw).1) errorType⟩
  · have hsources := (perm_of_sources spec.params).map ParamView.of
    simp only [List.map_append, ← List.append_assoc] at hsources
    rw [bodyParams_append_rawParams]
    exact hsources
  · have hnames : (MethodView.of errorType spec).pathParams.map (·.name) =
        (spec.paramsFrom .path).map (·.name) := List.map_map
    rw [hnames]
    exact h.path_names

/-! ## Services -/

/-- **Parameter binding is complete and exclusive.** If the parameters of each method have different
names, a built service has one contract for each marked method, in order. It carries the declared
parameters as the template and the directives in the doc comment of the method say, and the view of
the method shares them out. -/
theorem parameters_bound {index : TypeIndex} {marker : String} {decl : InterfaceDecl}
    {s : ServiceSpec} (hnames : ∀ m ∈ decl.methods, (m.params.map ParamDecl.name).Nodup)
    (h : ServiceSpec.build index marker decl = .ok (some s)) :
    s.methods ≠ [] ∧
      List.Forall₂ (fun m spec => ∃ queries headers tags,
        MethodDirectives.queryPart.valuesIn marker m.docs = .ok queries ∧
        MethodDirectives.headerPart.valuesIn marker m.docs = .ok headers ∧
        MethodDirectives.jsonTagPart.valuesIn marker m.docs = .ok tags ∧
        MethodSpec.Carries m queries headers tags spec ∧
        (MethodView.of s.errorType spec).Shares spec.pathVariables)
        (decl.methods.filter fun m => isMarked marker m.docs) s.methods := by
  have hbuilt := ServiceSpec.built_of_build h
  obtain ⟨_, -, hmethods⟩ := hbuilt.methods
  have hall := buildMethods_ok hmethods
  constructor
  · intro hnil
    rw [hnil, List.forall₂_nil_right_iff] at hall
    exact hbuilt.marked_ne_nil hall
  · have hdistinct : ∀ m ∈ decl.marked marker, (m.params.map ParamDecl.name).Nodup :=
      fun m hm => hnames m (List.mem_filter.1 hm).1
    refine ((List.forall₂_and_left _ _).2 ⟨hdistinct, hall⟩).imp ?_
    rintro m spec ⟨hparams, d, hparse, hspec⟩
    obtain ⟨tags, htags, htable⟩ := MethodDirectives.parse_jsonTags hparse
    have hcarries := hspec.carries htable hparams
    exact ⟨d.queries, d.headers, tags, MethodDirectives.parse_queries hparse,
      MethodDirectives.parse_headers hparse, htags, hcarries, hcarries.shares s.errorType⟩

/-- A trait whose method has a parameter in each place. -/
def searchTrait : InterfaceDecl where
  name := "Search"
  docs := []
  methods := [{
    name := "find"
    docs := ["@gtg uri-path /{shelf}", "@gtg api-path /v1", "@gtg query page, page=p",
      "@gtg header X-Token: token", "@gtg json-tag text q"]
    receiver := .ref
    params := [⟨"shelf", "u64"⟩, ⟨"page", "Option<u32>"⟩, ⟨"token", "String"⟩, ⟨"text", "String"⟩]
    unsupportedParam := none
    isGeneric := false
    isAsync := true
    hasDefault := false
    returnType := "Result<String, Failure>"
    okType := some "String"
    errType := some "Failure"
    returnsResult := true
    referencedTypes := ∅ }]
  modulePath := "crate"
  sourcePath := ⟨"src/lib.rs"⟩
  isGeneric := false

/-- The parameters of a trait with one method. -/
theorem parameters_bound_search :
    (∀ m ∈ searchTrait.methods, (m.params.map ParamDecl.name).Nodup) ∧
      ∃ s, ServiceSpec.build {} "@gtg" searchTrait = .ok (some s) ∧ s.methods ≠ [] ∧
        s.methods.map (fun spec => spec.params.map fun p => (p.source, p.key)) =
          [[(.path, "shelf"), (.query, "p"), (.header, "X-Token"), (.body, "q")]] := by
  have hnames : ∀ m ∈ searchTrait.methods, (m.params.map ParamDecl.name).Nodup := by decide
  have hbuild : (ServiceSpec.build {} "@gtg" searchTrait).toOption.join.any (fun s =>
      s.methods.map (fun spec => spec.params.map fun p => (p.source, p.key)) =
        [[(.path, "shelf"), (.query, "p"), (.header, "X-Token"), (.body, "q")]]) = true := by
    decide +kernel
  obtain ⟨s, hs, hfacts⟩ := (Option.any_eq_true _ _).1 hbuild
  have hs := eq_ok_of_toOption_join hs
  exact ⟨hnames, s, hs, (parameters_bound hnames hs).1, of_decide_eq_true hfacts⟩

end TransportGen
