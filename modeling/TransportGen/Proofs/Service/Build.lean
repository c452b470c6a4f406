import TransportGen.Proofs.Service.Binding
import TransportGen.Service.Build

/-!
# What a built service went through

A service is built exactly if all its checks succeed, and it is what they give: `MethodSpec.Built`
for one method, `ServiceSpec.Built` for the trait.
-/

namespace TransportGen

/-! ## Variables of a template -/

theorem firstRepeated_eq_none_iff {seen names : List String} :
    firstRepeated seen names = none ↔ names.Nodup ∧ ∀ name ∈ names, name ∉ seen := by
  induction names generalizing seen with
  | nil => simp [firstRepeated]
  | cons name rest ih =>
    by_cases hseen : name ∈ seen
    · simp [firstRepeated, hseen]
    · simp only [firstRepeated, List.contains_iff_mem, hseen, if_false, ih, List.nodup_cons]
      constructor
      · rintro ⟨hnodup, hrest⟩
        refine ⟨⟨fun hmem => hrest name hmem List.mem_cons_self, hnodup⟩, ?_⟩
        exact List.forall_mem_cons.2
          ⟨hseen, fun x hx hmem => hrest x hx (List.mem_cons_of_mem _ hmem)⟩
      · rintro ⟨⟨hname, hnodup⟩, hall⟩
        refine ⟨hnodup, fun x hx hmem => ?_⟩
        rcases List.mem_cons.1 hmem with rfl | hmem
        · exact hname hx
        · exact hall x (List.mem_cons_of_mem _ hx) hmem

theorem distinctVariables_eq_ok_iff {template : String} {vars : List String} :
    distinctVariables template = .ok vars ↔ pathVariables template = .ok vars ∧ vars.Nodup := by
  have hnodup : ∀ names : List String, firstRepeated [] names = none ↔ names.Nodup := by
    simp [firstRepeated_eq_none_iff]
  unfold distinctVariables
  cases hvars : pathVariables template with
  | error e => simp [throw_bind_ne_ok]
  | ok names =>
    simp only [pure_bind]
    cases hrepeated : firstRepeated [] names with
    | none =>
      have := (hnodup names).1 hrepeated
      constructor
      · rintro ⟨⟩
        exact ⟨rfl, this⟩
      · rintro ⟨⟨⟩, -⟩
        rfl
    | some v =>
      constructor
      · exact fun h => (throw_bind_ne_ok h).elim
      · rintro ⟨heq, h⟩
        cases heq
        rw [(hnodup _).2 h] at hrepeated
        cases hrepeated

/-! ## One method -/

/-- The checks that a method passed, and the contract that they give. -/
structure MethodSpec.Built (index : TypeIndex) (interface : String) (m : MethodDecl)
    (d : MethodDirectives) (spec : MethodSpec) : Prop where
  signature : checkSignature m = .ok ()
  vars : distinctVariables (uriTemplateOf interface m d) = .ok spec.pathVariables
  params : bindParams m.params d spec.pathVariables = .ok spec.params
  rawBody : checkRawBody (d.contentType.getD defaultContentType) d spec.params = .ok ()
  response : checkResponse m.okType d (bodyOf m d) (m.okType.bind (structFields? index)) = .ok ()
  errors : errorStatusTable index m d = .ok spec.errorStatus
  eq : spec = {
    name := m.name
    verb := d.verb.getD .post
    uriTemplate := uriTemplateOf interface m d
    pathVariables := spec.pathVariables
    params := spec.params
    requestContentType := d.contentType.getD defaultContentType
    responseContentType := d.responseContentType
    responseContentEncoding := d.responseContentEncoding
    responseStatus := d.responseStatus.getD 200
    responseBody := bodyOf m d
    responseHeaders := d.responseHeaders
    responseJsonTags := d.responseJsonTags
    errorStatus := spec.errorStatus
    summary := d.summary
    description := d.description
    isAsync := m.isAsync
    okType := m.okType
    errType := m.errType
    returnsResult := m.returnsResult
    responseFields := m.okType.bind (structFields? index) }

theorem MethodSpec.build_eq_ok_iff {index : TypeIndex} {interface : String} {m : MethodDecl}
    {d : MethodDirectives} {spec : MethodSpec} :
    MethodSpec.build index interface m d = .ok spec ↔ Built index interface m d spec := by
  unfold MethodSpec.build
  constructor
  · intro h
    obtain ⟨_, hsignature, h⟩ := bind_eq_ok.1 h
    obtain ⟨vars, hvars, h⟩ := bind_eq_ok.1 h
    obtain ⟨params, hparams, h⟩ := bind_eq_ok.1 h
    obtain ⟨_, hraw, h⟩ := bind_eq_ok.1 h
    obtain ⟨_, hresponse, h⟩ := bind_eq_ok.1 h
    obtain ⟨errors, herrors, h⟩ := bind_eq_ok.1 h
    cases h
    exact ⟨hsignature, hvars, hparams, hraw, hresponse, herrors, rfl⟩
  · intro h
    refine bind_eq_ok.2 ⟨(), h.signature, bind_eq_ok.2 ⟨_, h.vars, bind_eq_ok.2 ⟨_, h.params, ?_⟩⟩⟩
    refine bind_eq_ok.2 ⟨(), h.rawBody, bind_eq_ok.2 ⟨(), h.response, ?_⟩⟩
    exact bind_eq_ok.2 ⟨_, h.errors, congrArg Except.ok h.eq.symm⟩

/-! ## All methods -/

theorem buildMethods_cons_ok {index : TypeIndex} {marker interface : String}
    {document final : DocumentDirectives} {m : MethodDecl} {rest : List MethodDecl}
    {specs : List MethodSpec}
    (h : buildMethods index marker interface document (m :: rest) = .ok (final, specs)) :
    ∃ d spec others, MethodDirectives.parse marker m.docs = .ok d ∧
      MethodSpec.build index interface m d = .ok spec ∧
      buildMethods index marker interface (document.merge d.document) rest = .ok (final, others) ∧
      specs = spec :: others := by
  simp only [buildMethods] at h
  split at h
  · cases h
  · rename_i d hparse
    split at h
    · cases h
    · rename_i spec hbuild
      obtain ⟨⟨_, others⟩, hrest, heq⟩ := map_eq_ok.1 h
      cases heq
      exact ⟨d, spec, others, hparse, hbuild, hrest, rfl⟩

/-- Each method is read and built on its own. -/
theorem buildMethods_ok {index : TypeIndex} {marker interface : String}
    {document final : DocumentDirectives} {methods : List MethodDecl} {specs : List MethodSpec}
    (h : buildMethods index marker interface document methods = .ok (final, specs)) :
    List.Forall₂ (fun m spec => ∃ d, MethodDirectives.parse marker m.docs = .ok d ∧
      MethodSpec.Built index interface m d spec) methods specs := by
  induction methods generalizing document specs with
  | nil =>
    cases h
    exact .nil
  | cons m rest ih =>
    obtain ⟨d, spec, others, hparse, hbuild, hrest, rfl⟩ := buildMethods_cons_ok h
    exact .cons ⟨d, hparse, MethodSpec.build_eq_ok_iff.1 hbuild⟩ (ih hrest)

/-- Methods that are read and built on their own are built together. -/
theorem exists_buildMethods {index : TypeIndex} {marker interface : String}
    {methods : List MethodDecl} {specs : List MethodSpec}
    (h : List.Forall₂ (fun m spec => ∃ d, MethodDirectives.parse marker m.docs = .ok d ∧
      MethodSpec.Built index interface m d spec) methods specs) (document : DocumentDirectives) :
    ∃ final, buildMethods index marker interface document methods = .ok (final, specs) := by
  induction h generalizing document with
  | nil => exact ⟨document, rfl⟩
  | cons hm _ ih =>
    obtain ⟨d, hparse, hbuilt⟩ := hm
    obtain ⟨final, hrest⟩ := ih (document.merge d.document)
    refine ⟨final, ?_⟩
    simp only [buildMethods, hparse, MethodSpec.build_eq_ok_iff.2 hbuilt]
    exact map_eq_ok.2 ⟨_, hrest, rfl⟩

/-! ## The service -/

/-- The methods of a trait that are marked. -/
def InterfaceDecl.marked (marker : String) (decl : InterfaceDecl) : List MethodDecl :=
  decl.methods.filter fun m => isMarked marker m.docs

/-- The checks that a trait passed, and the service that they give. -/
structure ServiceSpec.Built (index : TypeIndex) (marker : String) (decl : InterfaceDecl)
    (s : ServiceSpec) : Prop where
  marked_ne_nil : decl.marked marker ≠ []
  not_generic : decl.isGeneric = false
  hasDefault : ∀ m ∈ decl.methods, isMarked marker m.docs = false → m.hasDefault = true
  processors : selectProcessors marker decl.docs = .ok s.processors
  methods : ∃ document, DocumentDirectives.parse marker decl.docs = .ok document ∧
    buildMethods index marker decl.name document (decl.marked marker) = .ok (s.document, s.methods)
  errorType : checkMethods s.processors s.methods = .ok s.errorType
  eq : s = {
    interfaceName := decl.name
    methods := s.methods
    importPath := decl.importPath
    modulePath := decl.modulePath
    sourcePath := decl.sourcePath
    processors := s.processors
    errorType := s.errorType
    errorVariants := s.errorType.bind fun type => index.variants? (lastSegment type)
    imports := importsOf index decl s.methods
    document := s.document }

theorem ServiceSpec.built_of_build {index : TypeIndex} {marker : String} {decl : InterfaceDecl}
    {s : ServiceSpec} (h : ServiceSpec.build index marker decl = .ok (some s)) :
    Built index marker decl s := by
  simp only [ServiceSpec.build] at h
  split at h
  · cases h
  rename_i hmarked
  obtain ⟨hgeneric, h⟩ := check_bind_eq_ok.1 h
  split at h
  · exact (throw_bind_ne_ok h).elim
  rename_i hdefault
  obtain ⟨processors, hprocessors, h⟩ := bind_eq_ok.1 h
  obtain ⟨document, hdocument, h⟩ := bind_eq_ok.1 h
  obtain ⟨⟨final, methods⟩, hmethods, h⟩ := bind_eq_ok.1 h
  obtain ⟨errorType, herrorType, h⟩ := bind_eq_ok.1 h
  cases h
  refine ⟨mt List.isEmpty_iff.2 hmarked, by simpa using hgeneric, ?_, mapError_eq_ok.1 hprocessors,
    ⟨document, mapError_eq_ok.1 hdocument, hmethods⟩, mapError_eq_ok.1 herrorType, rfl⟩
  have hnone := List.find?_eq_none.1 (Option.eq_none_iff_forall_ne_some.2 hdefault)
  intro m hm hmark
  simpa [hmark] using hnone m hm

/-- A trait that passes all checks is built. -/
theorem ServiceSpec.build_of_built {index : TypeIndex} {marker : String} {decl : InterfaceDecl}
    {s : ServiceSpec} (h : Built index marker decl s) :
    ServiceSpec.build index marker decl = .ok (some s) := by
  have hmarked : ¬(decl.methods.filter fun m => isMarked marker m.docs).isEmpty = true :=
    fun hempty => h.marked_ne_nil (List.isEmpty_iff.1 hempty)
  have hdefault : decl.methods.find? (fun m => !m.hasDefault && !isMarked marker m.docs) = none := by
    rw [List.find?_eq_none]
    intro m hm
    cases hmark : isMarked marker m.docs with
    | true => simp
    | false => simp [h.hasDefault m hm hmark]
  obtain ⟨document, hdocument, hmethods⟩ := h.methods
  simp only [ServiceSpec.build, if_neg hmarked, hdefault]
  refine check_bind_eq_ok.2 ⟨by simp [h.not_generic], ?_⟩
  refine bind_eq_ok.2 ⟨_, mapError_eq_ok.2 h.processors, ?_⟩
  refine bind_eq_ok.2 ⟨_, mapError_eq_ok.2 hdocument, bind_eq_ok.2 ⟨_, hmethods, ?_⟩⟩
  exact bind_eq_ok.2 ⟨_, mapError_eq_ok.2 h.errorType, congrArg (Except.ok ∘ some) h.eq.symm⟩

/-- Only a trait without marked methods is no service. -/
theorem ServiceSpec.build_eq_none_iff {index : TypeIndex} {marker : String}
    {decl : InterfaceDecl} :
    ServiceSpec.build index marker decl = .ok none ↔ decl.marked marker = [] := by
  unfold InterfaceDecl.marked
  simp only [ServiceSpec.build]
  split
  · rename_i hempty
    exact ⟨fun _ => List.isEmpty_iff.1 hempty, fun _ => rfl⟩
  · rename_i hmarked
    constructor
    · intro h
      obtain ⟨-, h⟩ := check_bind_eq_ok.1 h
      split at h
      · exact (throw_bind_ne_ok h).elim
      · obtain ⟨_, -, h⟩ := bind_eq_ok.1 h
        obtain ⟨_, -, h⟩ := bind_eq_ok.1 h
        obtain ⟨_, -, h⟩ := bind_eq_ok.1 h
        obtain ⟨_, -, h⟩ := bind_eq_ok.1 h
        cases h
    · intro h
      exact absurd (List.isEmpty_iff.2 h) hmarked

/-! ## Methods and their contracts -/

/-- The contract that a method of a trait is read and built into. -/
def MethodDecl.HasContract (index : TypeIndex) (marker interface : String) (m : MethodDecl)
    (spec : MethodSpec) : Prop :=
  ∃ d, MethodDirectives.parse marker m.docs = .ok d ∧ MethodSpec.Built index interface m d spec

theorem MethodDecl.HasContract.unique {index : TypeIndex} {marker interface : String}
    {m : MethodDecl} {a b : MethodSpec} (ha : m.HasContract index marker interface a)
    (hb : m.HasContract index marker interface b) : a = b := by
  obtain ⟨d, hparse, hbuilt⟩ := ha
  obtain ⟨d', hparse', hbuilt'⟩ := hb
  have hd : d = d' := Except.ok.inj (hparse.symm.trans hparse')
  subst hd
  have hbuild := MethodSpec.build_eq_ok_iff.2 hbuilt
  rw [MethodSpec.build_eq_ok_iff.2 hbuilt'] at hbuild
  exact (Except.ok.inj hbuild).symm

/-- The contracts of a built service, as a function of the declared methods. -/
theorem ServiceSpec.Built.exists_contract {index : TypeIndex} {marker : String}
    {decl : InterfaceDecl} {s : ServiceSpec} (h : Built index marker decl s) :
    ∃ contract : MethodDecl → MethodSpec, s.methods = (decl.marked marker).map contract ∧
      ∀ m ∈ decl.marked marker, m.HasContract index marker decl.name (contract m) := by
  obtain ⟨document, -, hmethods⟩ := h.methods
  have hall : List.Forall₂ (MethodDecl.HasContract index marker decl.name) (decl.marked marker)
      s.methods := buildMethods_ok hmethods
  have hnonempty : Nonempty MethodSpec := by
    cases hspecs : s.methods with
    | nil =>
      rw [hspecs, List.forall₂_nil_right_iff] at hall
      exact absurd hall h.marked_ne_nil
    | cons spec _ => exact ⟨spec⟩
  apply exists_map_eq _ hall
  intro m a b ha hb
  exact ha.unique hb

end TransportGen
