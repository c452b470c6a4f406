import TransportGen.Proofs.Document.Operation
import TransportGen.Proofs.Service.Responses

/-!
# Names on the wire

The keys of parameters and the JSON names of response fields come from directives, and otherwise
from the parameters and fields themselves. Nothing compares them, so they can collide. This module
says exactly when they do not.

* `nodup_map_renamed_iff`: when a renaming keeps different names different.
* `length_propertyNames_renameProperties`: then no property of a schema is lost.
* `AllBound.nodup_wireKeys_iff`: the keys of parameters; `wireNames_apart_iff`: a built service.
-/

namespace TransportGen

/-! ## Renamings -/

/-- A renaming gives no new name twice, and none that a name keeps. -/
structure KeepsApart (t : Table String String) (names : List String) : Prop where
  values : t.values.Nodup
  kept : ∀ name ∈ names, name ∉ t.keys → name ∉ t.values

instance (t : Table String String) (names : List String) : Decidable (KeepsApart t names) :=
  decidable_of_iff (t.values.Nodup ∧ ∀ name ∈ names, name ∉ t.keys → name ∉ t.values)
    ⟨fun h => ⟨h.1, h.2⟩, fun h => ⟨h.values, h.kept⟩⟩

section Renaming

variable {t : Table String String} {names : List String} {name new : String}

theorem renamed_of_not_mem (h : name ∉ t.keys) : renamed t name = name := by
  rw [renamed, Table.get?_eq_none_iff.2 h]
  rfl

theorem renamed_of_mem (h : (name, new) ∈ t.entries) : renamed t name = new := by
  rw [renamed, Table.get?_eq_some_iff.2 h]
  rfl

theorem mem_keys_of_mem (h : (name, new) ∈ t.entries) : name ∈ t.keys :=
  List.mem_map_of_mem h

theorem exists_mem_entries (h : name ∈ t.keys) : ∃ new, (name, new) ∈ t.entries := by
  obtain ⟨⟨_, new⟩, hmem, rfl⟩ := List.mem_map.1 h
  exact ⟨new, hmem⟩

/-- Different names stay different if and only if they were different and the renaming keeps them
apart. -/
theorem nodup_map_renamed_iff (hkeys : ∀ key ∈ t.keys, key ∈ names) :
    (names.map (renamed t)).Nodup ↔ names.Nodup ∧ KeepsApart t names := by
  constructor
  · intro h
    have hinj : ∀ a ∈ names, ∀ b ∈ names, renamed t a = renamed t b → a = b :=
      fun a ha b hb => List.inj_on_of_nodup_map h ha hb
    refine ⟨h.of_map, ?_, ?_⟩
    · have hentries : t.entries.Nodup := t.nodup_keys.of_map
      refine hentries.map_on fun a ha b hb heq => ?_
      obtain ⟨key, new⟩ := a
      obtain ⟨key', new'⟩ := b
      have hrenamed : renamed t key = renamed t key' :=
        (renamed_of_mem ha).trans (heq.trans (renamed_of_mem hb).symm)
      have hkey := hinj key (hkeys _ (mem_keys_of_mem ha)) key' (hkeys _ (mem_keys_of_mem hb))
        hrenamed
      exact Prod.ext hkey heq
    · intro name hname hkept hvalue
      obtain ⟨⟨key, new⟩, hmem, rfl⟩ := List.mem_map.1 hvalue
      have hrenamed : renamed t key = renamed t new :=
        (renamed_of_mem hmem).trans (renamed_of_not_mem hkept).symm
      have hkey := hinj key (hkeys _ (mem_keys_of_mem hmem)) new hname hrenamed
      exact hkept (hkey ▸ mem_keys_of_mem hmem)
  · rintro ⟨hnames, hapart⟩
    refine hnames.map_on fun a ha b hb heq => ?_
    -- A name that is kept is no value of the table, so both names are kept or both are renamed.
    by_cases hkey : a ∈ t.keys
    · obtain ⟨new, hmem⟩ := exists_mem_entries hkey
      have hvalue : new ∈ t.values := List.mem_map_of_mem hmem
      rw [renamed_of_mem hmem] at heq
      by_cases hkey' : b ∈ t.keys
      · obtain ⟨new', hmem'⟩ := exists_mem_entries hkey'
        rw [renamed_of_mem hmem'] at heq
        exact congrArg Prod.fst (List.inj_on_of_nodup_map hapart.values hmem hmem' heq)
      · rw [renamed_of_not_mem hkey'] at heq
        exact (hapart.kept b hb hkey' (heq ▸ hvalue)).elim
    · rw [renamed_of_not_mem hkey] at heq
      by_cases hkey' : b ∈ t.keys
      · obtain ⟨new', hmem'⟩ := exists_mem_entries hkey'
        rw [renamed_of_mem hmem'] at heq
        have hvalue : new' ∈ t.values := List.mem_map_of_mem hmem'
        exact (hapart.kept a ha hkey (heq ▸ hvalue)).elim
      · rw [renamed_of_not_mem hkey'] at heq
        exact heq

end Renaming

/-! ## Schemas with renamed properties -/

theorem propertyNames_object (t : Table String JsonValue) :
    propertyNames (.object t.entries) =
      ((t.get? "properties").map fun properties => properties.fields.map Prod.fst).getD [] := by
  simp only [propertyNames, field?_object]
  cases t.get? "properties" <;> rfl

/-- Renaming the properties of a schema renames their names and loses the former of two that get one
name. -/
theorem propertyNames_renameProperties (tags : Table String String)
    (properties : List (String × JsonValue)) (required : List String) :
    propertyNames (renameProperties tags (recordSchema properties required)) =
      (Table.ofList ((Table.ofList properties).entries.map fun (name, s) =>
        (renamed tags name, s))).keys := by
  obtain ⟨t, hschema, hproperties⟩ : ∃ t : Table String JsonValue,
      recordSchema properties required = .object t.entries ∧
        t.get? "properties" = some (.object (Table.ofList properties).entries) := by
    refine ⟨_, ofFields_eq _, ?_⟩
    rw [Table.get?_ofList, ← ofFields_eq]
    cases required <;> rfl
  rw [hschema, renameProperties]
  simp only [field?_object, hproperties, setField_object]
  -- The list of required names may be replaced as well, which leaves the properties alone.
  split
  all_goals
    simp only [propertyNames_object, Table.get?_insert]
    simp [fields_ofFields, Table.keys]

/-- **No property is lost** where different names stay different. -/
theorem length_propertyNames_renameProperties {tags : Table String String}
    {properties : List (String × JsonValue)}
    (h : ((properties.map Prod.fst).map (renamed tags)).Nodup) (required : List String) :
    (propertyNames (renameProperties tags (recordSchema properties required))).length =
      properties.length := by
  have hperm : (propertyNames (renameProperties tags (recordSchema properties required))).Perm
      ((properties.map Prod.fst).map (renamed tags)) := by
    rw [propertyNames_renameProperties]
    refine (List.perm_ext_iff_of_nodup (Table.nodup_keys _) h).2 fun new => ?_
    have hkeys : ∀ name,
        name ∈ (Table.ofList properties).keys ↔ name ∈ properties.map Prod.fst := by
      intro name
      rw [Table.mem_keys_ofList, List.mem_map]
    rw [Table.mem_keys_ofList, List.mem_map]
    constructor
    · rintro ⟨entry, hentry, rfl⟩
      obtain ⟨old, hold, rfl⟩ := List.mem_map.1 hentry
      exact ⟨old.1, (hkeys old.1).1 (List.mem_map_of_mem hold), rfl⟩
    · rintro ⟨name, hname, rfl⟩
      obtain ⟨old, hold, rfl⟩ := List.mem_map.1 ((hkeys name).2 hname)
      exact ⟨_, List.mem_map_of_mem hold, rfl⟩
  rw [hperm.length_eq, List.length_map, List.length_map]

/-! ## Parameters -/

/-- A header name as it is compared, without regard to case. -/
def headerKey (name : String) : String := String.ofList (Text.lowerAscii name.toList)

/-- What a parameter is called on the wire. -/
def ParameterBinding.wireKey (p : ParameterBinding) : String :=
  if p.source = .header then headerKey p.key else p.key

/-- The place where the template or a directive puts a parameter. -/
def placeOf (vars : List String) (queries : List QueryDirective) (headers : List HeaderDirective)
    (name : String) : ParamSource :=
  if name ∈ vars then .path
  else if ∃ q ∈ queries, q.param = name then .query
  else if ∃ h ∈ headers, h.param = name then .header
  else .body

/-- The names that directives give to the parameters in one place. -/
def wireTable (queries : List QueryDirective) (headers : List HeaderDirective)
    (tags : List (String × String)) : ParamSource → Table String String
  | .path => ∅
  | .query => .ofList (queries.map fun q => (q.param, q.key))
  | .header => .ofList (headers.map fun h => (h.param, headerKey h.name))
  | .body => .ofList tags

section Parameters

variable {params : List ParamDecl} {vars : List String} {queries : List QueryDirective}
  {headers : List HeaderDirective} {tags : List (String × String)}
  {bindings : List ParameterBinding}

theorem Bound.source_eq {p : ParameterBinding} (h : Bound vars queries headers tags p) :
    p.source = placeOf vars queries headers p.name := by
  have hpath := h.path_iff
  have hquery := h.query_iff
  have hheader := h.header_iff
  simp only [placeOf, ← hpath, ← hquery, ← hheader]
  cases p.source <;> simp

theorem get?_ofList_map {α : Type} (xs : List α) (name value : α → String) (key : String) :
    (Table.ofList (xs.map fun x => (name x, value x))).get? key =
      (xs.filter (name · = key)).getLast?.map value := by
  rw [Table.get?_ofList, List.filter_map, List.getLast?_map, Option.map_map]
  rfl

/-- The last directive that names a parameter gives it its key. -/
theorem Bound.wireKey_eq {p : ParameterBinding} (h : Bound vars queries headers tags p) :
    p.wireKey = renamed (wireTable queries headers tags p.source) p.name := by
  have hkey := h.key
  rw [ParameterBinding.wireKey, renamed]
  cases hsource : p.source with
  | path =>
    rw [hsource] at hkey
    exact Option.some.inj hkey
  | query =>
    rw [hsource] at hkey
    obtain ⟨q, hlast, hname⟩ := Option.map_eq_some_iff.1 hkey.symm
    rw [wireTable, get?_ofList_map, hlast, ← hname]
    rfl
  | header =>
    rw [hsource] at hkey
    obtain ⟨h, hlast, hname⟩ := Option.map_eq_some_iff.1 hkey.symm
    rw [wireTable, get?_ofList_map, hlast, ← hname]
    rfl
  | body =>
    rw [hsource] at hkey
    simp only [wireTable, Table.get?_ofList]
    exact Option.some.inj hkey

theorem AllBound.place_of_mem_keys (h : AllBound params vars queries headers tags bindings)
    {source : ParamSource} {name : String}
    (hname : name ∈ (wireTable queries headers tags source).keys) :
    ∃ b ∈ bindings, b.source = source ∧ b.name = name := by
  have hdeclared : ∀ {name}, (∃ p ∈ params, p.name = name) → ∃ b ∈ bindings, b.name = name := by
    rintro _ ⟨p, hp, rfl⟩
    have hmem : p.name ∈ bindings.map (·.name) := h.map_name ▸ List.mem_map_of_mem hp
    exact List.mem_map.1 hmem
  cases source with
  | path => cases hname
  | query =>
    obtain ⟨_, hentry, rfl⟩ := Table.mem_keys_ofList.1 hname
    obtain ⟨q, hq, rfl⟩ := List.mem_map.1 hentry
    obtain ⟨b, hb, hparam⟩ := hdeclared (h.queries q hq)
    exact ⟨b, hb, (h.bound b hb).query_iff.2 ⟨q, hq, hparam.symm⟩, hparam⟩
  | header =>
    obtain ⟨_, hentry, rfl⟩ := Table.mem_keys_ofList.1 hname
    obtain ⟨header, hheader, rfl⟩ := List.mem_map.1 hentry
    obtain ⟨b, hb, hparam⟩ := hdeclared (h.headers header hheader)
    exact ⟨b, hb, (h.bound b hb).header_iff.2 ⟨header, hheader, hparam.symm⟩, hparam⟩
  | body =>
    obtain ⟨tag, htag, rfl⟩ := Table.mem_keys_ofList.1 hname
    obtain ⟨b, hb, hparam, hsource⟩ := h.tags tag htag
    exact ⟨b, hb, hsource, hparam⟩

theorem nodup_iff_filters {α β : Type} [DecidableEq β] (f : α → β) (xs : List α) :
    xs.Nodup ↔ ∀ c, (xs.filter (f · = c)).Nodup := by
  refine ⟨fun h c => h.filter _, fun h => ?_⟩
  induction xs with
  | nil => exact List.nodup_nil
  | cons x rest ih =>
    have hx := h (f x)
    rw [List.filter_cons_of_pos (by simp), List.nodup_cons] at hx
    refine List.nodup_cons.2 ⟨fun hmem => hx.1 (List.mem_filter.2 ⟨hmem, by simp⟩), ?_⟩
    exact ih fun c => (h c).sublist ((List.sublist_cons_self x rest).filter _)

/-- The names of the declared parameters that travel in one place. -/
def namesIn (params : List ParamDecl) (vars : List String) (queries : List QueryDirective)
    (headers : List HeaderDirective) (source : ParamSource) : List String :=
  (params.map (·.name)).filter (placeOf vars queries headers · = source)

theorem AllBound.names_eq (h : AllBound params vars queries headers tags bindings)
    (source : ParamSource) :
    (bindings.filter (·.source = source)).map (·.name) =
      namesIn params vars queries headers source := by
  rw [namesIn, ← h.map_name, List.filter_map]
  refine congrArg _ (List.filter_congr fun b hb => ?_)
  rw [(h.bound b hb).source_eq]
  rfl

/-- **Keys of parameters.** They are different in each place if and only if the parameters have
different names and the directives keep these apart. -/
theorem AllBound.nodup_wireKeys_iff (h : AllBound params vars queries headers tags bindings) :
    (∀ source, ((bindings.filter (·.source = source)).map (·.wireKey)).Nodup) ↔
      (params.map (·.name)).Nodup ∧ ∀ source,
        KeepsApart (wireTable queries headers tags source)
          (namesIn params vars queries headers source) := by
  have hkeys : ∀ source, (bindings.filter (·.source = source)).map (·.wireKey) =
      (namesIn params vars queries headers source).map
        (renamed (wireTable queries headers tags source)) := by
    intro source
    rw [← h.names_eq, List.map_map]
    refine List.map_congr_left fun p hp => ?_
    obtain ⟨hmem, hsource⟩ := List.mem_filter.1 hp
    rw [(h.bound p hmem).wireKey_eq, of_decide_eq_true hsource]
    rfl
  have hmem : ∀ source, ∀ key ∈ (wireTable queries headers tags source).keys,
      key ∈ namesIn params vars queries headers source := by
    intro source key hkey
    obtain ⟨b, hb, hsource, hname⟩ := h.place_of_mem_keys hkey
    rw [← h.names_eq, ← hname]
    exact List.mem_map_of_mem (List.mem_filter.2 ⟨hb, decide_eq_true hsource⟩)
  -- Parameters of one name travel in one place, so the names may be compared place by place.
  rw [nodup_iff_filters (placeOf vars queries headers), ← forall_and]
  refine forall_congr' fun source => ?_
  rw [hkeys, nodup_map_renamed_iff (hmem source)]
  rfl

end Parameters

/-! ## Methods -/

/-- JSON names of response fields are names of fields of a known struct. -/
theorem fields_of_checkResponse {okType : Option String} {d : MethodDirectives}
    {body : ResponseBody} {fields : Option (List FieldDecl)}
    (h : checkResponse okType d body fields = .ok ()) :
    ∀ key ∈ d.responseJsonTags.keys, key ∈ (fields.getD []).map (·.name) :=
  (checkResponse_eq_ok_iff.1 h).tags.names

/-- On the wire no two parameters in one place have one name, and no two fields of the success
value. So no property of its schema is lost. -/
structure MethodSpec.WireNamesApart (m : MethodSpec) : Prop where
  params : ∀ source, ((m.paramsFrom source).map (·.wireKey)).Nodup
  fields : m.responseJsonTags.isEmpty = false →
    ((m.responseFields.getD []).map fun f => renamed m.responseJsonTags f.name).Nodup
  properties : m.responseJsonTags.isEmpty = false → ∀ (schema : FieldDecl → JsonValue) required,
    (propertyNames (renameProperties m.responseJsonTags (recordSchema
      ((m.responseFields.getD []).map fun f => (f.name, schema f)) required))).length =
      (m.responseFields.getD []).length

/-- Parameters and fields have different names, and the directives keep apart those of the
parameters in one place and those of the fields. -/
structure DeclaredApart (params : List ParamDecl) (fields : List FieldDecl) (vars : List String)
    (queries : List QueryDirective) (headers : List HeaderDirective)
    (tags responseTags : List (String × String)) : Prop where
  names : (params.map (·.name)).Nodup
  keys : ∀ source, KeepsApart (wireTable queries headers tags source)
    (namesIn params vars queries headers source)
  fields : responseTags ≠ [] → (fields.map (·.name)).Nodup ∧
    KeepsApart (.ofList responseTags) (fields.map (·.name))

instance (params : List ParamDecl) (fields : List FieldDecl) (vars : List String)
    (queries : List QueryDirective) (headers : List HeaderDirective)
    (tags responseTags : List (String × String)) :
    Decidable (DeclaredApart params fields vars queries headers tags responseTags) :=
  decidable_of_iff
    ((params.map (·.name)).Nodup ∧
      (∀ source ∈ [ParamSource.path, .query, .header, .body],
        KeepsApart (wireTable queries headers tags source)
          (namesIn params vars queries headers source)) ∧
      (responseTags ≠ [] → (fields.map (·.name)).Nodup ∧
        KeepsApart (.ofList responseTags) (fields.map (·.name))))
    ⟨fun h => ⟨h.1, fun source => h.2.1 source (by cases source <;> decide), h.2.2⟩,
      fun h => ⟨h.names, fun source _ => h.keys source, h.fields⟩⟩

theorem MethodSpec.Built.wireNamesApart_iff {index : TypeIndex} {interface : String}
    {m : MethodDecl} {d : MethodDirectives} {spec : MethodSpec}
    {tags responseTags : List (String × String)} (h : MethodSpec.Built index interface m d spec)
    (htags : d.jsonTags = .ofList tags) (hresponse : d.responseJsonTags = .ofList responseTags) :
    spec.WireNamesApart ↔ DeclaredApart m.params ((m.okType.bind (structFields? index)).getD [])
      spec.pathVariables d.queries d.headers tags responseTags := by
  have hparams := (allBound_of_bindParams htags h.params).nodup_wireKeys_iff
  have hfields : spec.responseFields = m.okType.bind (structFields? index) := by rw [h.eq]
  have hspec : spec.responseJsonTags = .ofList responseTags := by
    rw [← hresponse, h.eq]
  have hempty : spec.responseJsonTags.isEmpty = false ↔ responseTags ≠ [] := by
    rw [hspec, Table.isEmpty_ofList]
    simp
  have hkeys := fields_of_checkResponse h.response
  rw [hresponse] at hkeys
  have hnames := nodup_map_renamed_iff hkeys
  constructor
  · intro hapart
    obtain ⟨hdeclared, hkept⟩ := hparams.1 hapart.params
    refine ⟨hdeclared, hkept, fun hne => hnames.1 ?_⟩
    have hnodup := hapart.fields (hempty.2 hne)
    rw [hspec, hfields, ← Function.comp_def, ← List.map_map] at hnodup
    exact hnodup
  · intro hapart
    have hnodup : spec.responseJsonTags.isEmpty = false →
        (((spec.responseFields.getD []).map (·.name)).map
          (renamed spec.responseJsonTags)).Nodup := by
      intro hne
      rw [hspec, hfields]
      exact hnames.2 (hapart.fields (hempty.1 hne))
    refine ⟨hparams.2 ⟨hapart.names, hapart.keys⟩, fun hne => ?_, fun hne schema required => ?_⟩
    · have hall := hnodup hne
      rw [List.map_map] at hall
      exact hall
    · have hproperties : ((spec.responseFields.getD []).map fun f => (f.name, schema f)).map
          Prod.fst = (spec.responseFields.getD []).map (·.name) := by
        rw [List.map_map]
        rfl
      rw [length_propertyNames_renameProperties (hproperties ▸ hnodup hne), List.length_map]

/-! ## Services -/

/-- **Names on the wire.** In a built service they are apart exactly for the methods whose
declarations and directives keep them apart. -/
theorem wireNames_apart_iff {index : TypeIndex} {marker : String} {decl : InterfaceDecl}
    {s : ServiceSpec} (h : ServiceSpec.build index marker decl = .ok (some s)) :
    List.Forall₂ (fun m spec => ∃ vars queries headers tags responseTags,
      pathVariables spec.uriTemplate = .ok vars ∧
      MethodDirectives.queryPart.valuesIn marker m.docs = .ok queries ∧
      MethodDirectives.headerPart.valuesIn marker m.docs = .ok headers ∧
      MethodDirectives.jsonTagPart.valuesIn marker m.docs = .ok tags ∧
      MethodDirectives.responseTagPart.valuesIn marker m.docs = .ok responseTags ∧
      (spec.WireNamesApart ↔ DeclaredApart m.params
        ((m.okType.bind (structFields? index)).getD []) vars queries headers tags responseTags))
      (decl.marked marker) s.methods := by
  obtain ⟨_, -, hmethods⟩ := (ServiceSpec.built_of_build h).methods
  refine (buildMethods_ok hmethods).imp ?_
  rintro m spec ⟨d, hparse, hspec⟩
  obtain ⟨tags, htags, htable⟩ := MethodDirectives.parse_jsonTags hparse
  obtain ⟨responseTags, hresponseTags, hresponse⟩ := MethodDirectives.parse_responseJsonTags hparse
  have htemplate : spec.uriTemplate = uriTemplateOf decl.name m d := by rw [hspec.eq]
  have hvars := (distinctVariables_eq_ok_iff.1 hspec.vars).1
  rw [← htemplate] at hvars
  exact ⟨spec.pathVariables, d.queries, d.headers, tags, responseTags, hvars,
    MethodDirectives.parse_queries hparse, MethodDirectives.parse_headers hparse, htags,
    hresponseTags, hspec.wireNamesApart_iff htable hresponse⟩

/-- An index with one struct. -/
def bookIndex : TypeIndex :=
  ({} : TypeIndex).insert
    { name := "Book", modulePath := "crate"
      shape := .record [⟨"id", "u64", ∅⟩, ⟨"title", "String", ∅⟩] }

/-- A trait whose directives rename a parameter in each place, and a field of the success value. -/
def bookTrait : InterfaceDecl :=
  { searchTrait with
    methods := searchTrait.methods.map fun m =>
      { m with docs := m.docs ++ ["@gtg response-json-tag id isbn"], okType := some "Book" } }

theorem wireNames_apart_book :
    ∃ s, ServiceSpec.build bookIndex "@gtg" bookTrait = .ok (some s) ∧ s.methods ≠ [] ∧
      ∀ m ∈ s.methods, m.WireNamesApart := by
  have hbuild : (ServiceSpec.build bookIndex "@gtg" bookTrait).toOption.join.any (fun s =>
      s.methods ≠ [] ∧ ∀ spec ∈ s.methods, spec.uriTemplate = "/v1/{shelf}") = true := by
    decide +kernel
  obtain ⟨s, hs, hne, htemplates⟩ := exists_ok_of_any hbuild
  refine ⟨s, hs, hne, fun spec hspec => ?_⟩
  obtain ⟨m, hm, vars, queries, headers, tags, responseTags, hvars, hqueries, hheaders, htags,
    hresponse, hiff⟩ := exists_of_mem_right (wireNames_apart_iff hs) hspec
  have hvalues : ∀ m ∈ bookTrait.methods,
      MethodDirectives.queryPart.valuesIn "@gtg" m.docs = .ok [⟨"page", "page"⟩, ⟨"page", "p"⟩] ∧
      MethodDirectives.headerPart.valuesIn "@gtg" m.docs = .ok [⟨"X-Token", "token"⟩] ∧
      MethodDirectives.jsonTagPart.valuesIn "@gtg" m.docs = .ok [("text", "q")] ∧
      MethodDirectives.responseTagPart.valuesIn "@gtg" m.docs = .ok [("id", "isbn")] ∧
      DeclaredApart m.params ((m.okType.bind (structFields? bookIndex)).getD []) ["shelf"]
        [⟨"page", "page"⟩, ⟨"page", "p"⟩] [⟨"X-Token", "token"⟩] [("text", "q")]
        [("id", "isbn")] := by
    decide +kernel
  obtain ⟨hqueries', hheaders', htags', hresponse', hapart⟩ :=
    hvalues m (List.mem_filter.1 hm).1
  have hvars' : pathVariables "/v1/{shelf}" = .ok ["shelf"] := by decide +kernel
  rw [htemplates spec hspec, hvars'] at hvars
  rw [hqueries'] at hqueries
  rw [hheaders'] at hheaders
  rw [htags'] at htags
  rw [hresponse'] at hresponse
  cases hvars
  cases hqueries
  cases hheaders
  cases htags
  cases hresponse
  exact hiff.2 hapart

/-- A trait whose methods give one name twice: in the query, in headers, in the body and in the
response. -/
def homonymTrait : InterfaceDecl :=
  { searchTrait with
    methods := searchTrait.methods.flatMap fun m =>
      [ { m with
          name := "list"
          docs := ["@gtg query page=n, size=n"]
          params := [⟨"page", "u32"⟩, ⟨"size", "u32"⟩] },
        { m with
          name := "check"
          docs := ["@gtg header X-Id: user", "@gtg header x-id: shop"]
          params := [⟨"user", "String"⟩, ⟨"shop", "String"⟩] },
        { m with
          name := "edit"
          docs := ["@gtg json-tag heading title"]
          params := [⟨"heading", "String"⟩, ⟨"title", "String"⟩] },
        { m with
          name := "load"
          docs := ["@gtg response-json-tag id title"]
          params := []
          okType := some "Book" } ] }

/-- All its methods are built. -/
theorem not_apart_homonyms :
    ∃ s, ServiceSpec.build bookIndex "@gtg" homonymTrait = .ok (some s) ∧ s.methods.length = 4 ∧
      ∀ m ∈ s.methods, ¬m.WireNamesApart := by
  have hbuild : (ServiceSpec.build bookIndex "@gtg" homonymTrait).toOption.join.any (fun s =>
      s.methods.length = 4 ∧ ∀ m ∈ s.methods,
        (∃ source ∈ [ParamSource.query, .header, .body],
          ¬((m.paramsFrom source).map (·.wireKey)).Nodup) ∨
        m.responseJsonTags.isEmpty = false ∧
          ¬((m.responseFields.getD []).map fun f => renamed m.responseJsonTags f.name).Nodup) =
      true := by
    decide +kernel
  obtain ⟨s, hs, hlength, hcollide⟩ := exists_ok_of_any hbuild
  refine ⟨s, hs, hlength, fun m hm hapart => ?_⟩
  rcases hcollide m hm with ⟨source, -, hparams⟩ | ⟨hne, hfields⟩
  · exact hparams (hapart.params source)
  · exact hfields (hapart.fields hne)

end TransportGen
