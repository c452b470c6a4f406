import TransportGen.Proofs.Directive.Document
import TransportGen.Proofs.Document.Aggregate

/-!
# What the API document says about itself

Title, version, summary, description and servers of the document come from directives on traits and
methods. They are merged in steps: into the directives of a trait, those of its methods, and all of
them into the document, service after service. The steps come to the same as reading all directives
in a row (`Summarizes`).

* `ServiceSpec.Built.holds_document`: the directives of one service.
* `Summarizes.overlay`: what one service adds; `aggregate_summarizes`: all services.
-/

namespace TransportGen

/-! ## One service -/

/-- The directives about the document in a doc comment of a method. -/
def MethodDecl.documentDirectives (marker : String) (m : MethodDecl) : List Directive :=
  (directivesIn marker m.docs).filter (·.reachesDocument)

/-- The directives about the document in a trait: those of its own doc comment, then those of its
marked methods in order of declaration. -/
def InterfaceDecl.documentDirectives (marker : String) (decl : InterfaceDecl) : List Directive :=
  directivesIn marker decl.docs ++ (decl.marked marker).flatMap (·.documentDirectives marker)

theorem holds_buildMethods {index : TypeIndex} {marker interface : String}
    {document final : DocumentDirectives} {ds : List Directive} {methods : List MethodDecl}
    {specs : List MethodSpec} (hdocument : document.Holds ds)
    (h : buildMethods index marker interface document methods = .ok (final, specs)) :
    final.Holds (ds ++ methods.flatMap (·.documentDirectives marker)) := by
  induction methods generalizing document ds specs with
  | nil =>
    cases h
    rw [List.flatMap_nil, List.append_nil]
    exact hdocument
  | cons m rest ih =>
    obtain ⟨d, _, _, hparse, -, hrest, -⟩ := buildMethods_cons_ok h
    have hmerged := hdocument.merge (MethodDirectives.holds_document hparse)
    rw [List.flatMap_cons, ← List.append_assoc]
    exact ih hmerged hrest

theorem ServiceSpec.Built.holds_document {index : TypeIndex} {marker : String}
    {decl : InterfaceDecl} {s : ServiceSpec} (h : ServiceSpec.Built index marker decl s) :
    s.document.Holds (decl.documentDirectives marker) := by
  obtain ⟨document, hdocument, hmethods⟩ := h.methods
  exact holds_buildMethods (DocumentDirectives.holds_of_parse hdocument) hmethods

/-- A trait and the service that was built of it. -/
structure BuiltTrait where
  index : TypeIndex
  marker : String
  decl : InterfaceDecl
  service : ServiceSpec
  built : ServiceSpec.build index marker decl = .ok (some service)

/-- The directives about the document in all traits that select it, in their order. -/
def documentDirectives (traits : List BuiltTrait) : List Directive :=
  (traits.filter (·.service.has .swagger)).flatMap fun t => t.decl.documentDirectives t.marker

/-! ## All services -/

/-- What a document says about itself is what a sequence of directives says: each text is the last
one given, and what is not given is taken from the info that the document was started from. Its
servers are those of the info and then those of the directives. -/
structure Summarizes (base : DocumentInfo) (ds : List Directive) (info : ApiInfo)
    (servers : List Server) : Prop where
  title : info.title = (argumentsOf "title" ds).getLast?.getD base.title
  version : info.version = (argumentsOf "version" ds).getLast?.getD base.version
  summary : info.summary = (argumentsOf "summary" ds).getLast?
  description : info.description = (argumentsOf "description" ds).getLast?.getD base.description
  servers : ∃ given, serversOf ds = .ok given ∧ Lists (base.servers ++ given) servers

/-- What a draft says about the document. -/
def Draft.about (draft : Draft) : ApiInfo :=
  ⟨draft.info.title, draft.info.version, draft.summary, draft.info.description⟩

namespace Draft

variable {index : TypeIndex} {draft final : Draft}

theorem addMethod_keeps {interface : String} {m : MethodSpec}
    (h : draft.addMethod index interface m = .ok final) :
    final.info = draft.info ∧ final.summary = draft.summary := by
  simp only [addMethod] at h
  split at h
  · cases h
  · cases h
    exact ⟨rfl, rfl⟩

theorem addMethods_keep {interface : String} {methods : List MethodSpec}
    (h : methods.foldlM (addMethod index interface) draft = .ok final) :
    final.info = draft.info ∧ final.summary = draft.summary := by
  induction methods generalizing draft with
  | nil =>
    cases h
    exact ⟨rfl, rfl⟩
  | cons m rest ih =>
    rw [List.foldlM_cons, bind_eq_ok] at h
    obtain ⟨next, hnext, hrest⟩ := h
    obtain ⟨hinfo, hsummary⟩ := addMethod_keeps hnext
    obtain ⟨hinfo', hsummary'⟩ := ih hrest
    exact ⟨hinfo'.trans hinfo, hsummary'.trans hsummary⟩

end Draft

namespace Summarizes

variable {base : DocumentInfo} {ds more : List Directive} {draft final : Draft}

/-- **One service.** -/
theorem overlay (h : Summarizes base ds draft.about draft.info.servers)
    {document : DocumentDirectives} (hdocument : document.Holds more) {next : Draft}
    (hinfo : next.info = draft.info.overlay document)
    (hsummary : next.summary = (document.summary <|> draft.summary)) :
    Summarizes base (ds ++ more) next.about next.info.servers := by
  have hlast : ∀ {keyword : String} {given : Option String} {value text : String},
      given = (argumentsOf keyword more).getLast? →
      value = (argumentsOf keyword ds).getLast?.getD text →
      given.getD value = (argumentsOf keyword (ds ++ more)).getLast?.getD text := by
    intro keyword given value text hgiven hvalue
    rw [argumentsOf_append, List.getLast?_append, ← hgiven, hvalue, Option.getD_or]
  obtain ⟨given, hgiven, hlist⟩ := h.servers
  obtain ⟨others, hothers, hentries⟩ := hdocument.servers
  have htexts := h.summary
  simp only [Draft.about, hinfo, hsummary] at htexts ⊢
  refine ⟨hlast hdocument.title h.title, hlast hdocument.version h.version, ?_,
    hlast hdocument.description h.description, given ++ others,
    serversOf_append hgiven hothers, ?_⟩
  · rw [argumentsOf_append, List.getLast?_append, ← hdocument.summary, ← htexts,
      Option.orElse_eq_orElse, Option.orElse_eq_or]
  · rw [← List.append_assoc]
    exact hlist.merge hentries

/-- **All services.** -/
theorem addServices {index : TypeIndex} {traits : List BuiltTrait}
    (h : Summarizes base ds draft.about draft.info.servers)
    (hrun : (traits.map (·.service)).foldlM (Draft.addService index) draft = .ok final) :
    Summarizes base (ds ++ traits.flatMap fun t => t.decl.documentDirectives t.marker) final.about
      final.info.servers := by
  induction traits generalizing draft ds with
  | nil =>
    cases hrun
    rw [List.flatMap_nil, List.append_nil]
    exact h
  | cons t rest ih =>
    rw [List.map_cons, List.foldlM_cons, bind_eq_ok] at hrun
    obtain ⟨next, hnext, hrest⟩ := hrun
    obtain ⟨hinfo, hsummary⟩ := Draft.addMethods_keep hnext
    have hholds := (ServiceSpec.built_of_build t.built).holds_document
    rw [List.flatMap_cons, ← List.append_assoc]
    exact ih (h.overlay hholds hinfo hsummary) hrest

end Summarizes

/-- **The document sums up all directives.** In a document that was made of built services, title,
version and servers come from the last directives of the traits and their marked methods, and
summary and description from those of the traits. -/
theorem aggregate_summarizes {base : DocumentInfo} (hservers : (base.servers.map (·.url)).Nodup)
    {index : TypeIndex} {traits : List BuiltTrait} {d : ApiDocument}
    (h : ApiDocument.aggregate index base (traits.map (·.service)) = .ok d) :
    Summarizes base (documentDirectives traits) d.info d.servers := by
  simp only [ApiDocument.aggregate] at h
  obtain ⟨draft, hrun, h⟩ := bind_eq_ok.1 h
  cases h
  rw [List.filter_map] at hrun
  have hstart : Summarizes base [] (Draft.about ⟨base, none, ∅, ∅⟩) base.servers := by
    refine ⟨rfl, rfl, rfl, rfl, [], rfl, ?_⟩
    rw [List.append_nil]
    exact .self hservers
  exact hstart.addServices hrun

/-- A trait that says what the document is about, and a method that says it again. -/
def catalogTrait : InterfaceDecl :=
  { searchTrait with
    docs := ["@gtg title Catalog", "@gtg summary All books", "@gtg servers https://a.example = one"]
    methods := searchTrait.methods.map fun m =>
      { m with docs := "@gtg title Books" :: "@gtg summary One shelf" ::
          "@gtg servers https://b.example" :: "@gtg servers https://a.example = two" :: m.docs } }

/-- The title of the method, the summary of the trait, and the server of the info first. -/
theorem aggregate_summarizes_catalog :
    ∃ s d, ServiceSpec.build {} "@gtg" catalogTrait = .ok (some s) ∧
      ApiDocument.aggregate {} { servers := [⟨"https://b.example", "given"⟩] } [s] = .ok d ∧
      d.info.title = "Books" ∧ d.info.summary = some "All books" ∧
      d.servers.map (·.url) = ["https://b.example", "https://a.example"] ∧
      ∀ server ∈ d.servers, server.url = "https://a.example" → server.description = "two" := by
  have hbuild : (ServiceSpec.build {} "@gtg" catalogTrait).toOption.join.any (fun s =>
      s.has .swagger ∧ ((participants [s]).map Participant.routeKey).Nodup) = true := by
    decide +kernel
  obtain ⟨s, hs, hswagger, hroutes⟩ := exists_ok_of_any hbuild
  let base : DocumentInfo := { servers := [⟨"https://b.example", "given"⟩] }
  obtain ⟨d, hd⟩ := exists_aggregate hroutes {} base
  have hnodup : (base.servers.map (·.url)).Nodup := by decide
  have hsums : Summarizes base (documentDirectives [⟨{}, "@gtg", catalogTrait, s, hs⟩]) d.info
      d.servers := aggregate_summarizes hnodup hd
  have hdirectives : documentDirectives [⟨{}, "@gtg", catalogTrait, s, hs⟩] =
      catalogTrait.documentDirectives "@gtg" := by
    simp [documentDirectives, hswagger]
  rw [hdirectives] at hsums
  obtain ⟨given, hgiven, hlist⟩ := hsums.servers
  have hread : serversOf (catalogTrait.documentDirectives "@gtg") =
      .ok [⟨"https://a.example", "one"⟩, ⟨"https://b.example", ""⟩,
        ⟨"https://a.example", "two"⟩] := by
    decide +kernel
  rw [hread] at hgiven
  cases hgiven
  refine ⟨s, d, hs, hd, hsums.title.trans ?_, hsums.summary.trans ?_, hlist.urls.trans ?_, ?_⟩
  · decide +kernel
  · decide +kernel
  · decide +kernel
  · intro server hserver hurl
    have hlast := hlist.last server hserver
    rw [hurl] at hlast
    have htwo : some server = some (Server.mk "https://a.example" "two") :=
      hlast.symm.trans (by decide +kernel)
    exact congrArg Server.description (Option.some.inj htwo)

end TransportGen
