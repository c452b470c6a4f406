import TransportGen.Proofs.Document.Aggregate
import TransportGen.Proofs.Service.Checks
import TransportGen.Proofs.Service.Routes
import TransportGen.Proofs.Template.Requests

/-!
# Routes and the requests they match

The methods of a service have different route keys, and so have the operations of a document. A key
shows what the template of a route matches and the slashes at its end, which no request does. So two
routes with one verb match the same requests only if they end with different slashes
(`routes_apart`), as there are in a built service (`same_requests_items`).
-/

namespace TransportGen

/-- Routes of one verb with different keys that match the same paths end with different slashes. -/
theorem trailingSlashes_ne {verb : Verb} {a b : String} (ha : IsWholeTemplate a)
    (hb : IsWholeTemplate b) (hkey : routeKeyOf verb a ≠ routeKeyOf verb b)
    (hsame : SameRequests a b) : trailingSlashes a ≠ trailingSlashes b := by
  intro hend
  apply hkey
  have hshape : routeShape a = routeShape b := (routeShape_eq_iff ha hb).2 ⟨hsame, hend⟩
  rw [routeKeyOf, routeKeyOf, hshape]

/-- The methods of a built service have different route keys. -/
theorem ServiceSpec.Built.pairwise_routeKey {index : TypeIndex} {marker : String}
    {decl : InterfaceDecl} {s : ServiceSpec} (h : Built index marker decl s) :
    s.methods.Pairwise fun m m' => m.routeKey ≠ m'.routeKey :=
  List.pairwise_map.1 (checkMethods_eq_ok_iff.1 h.errorType).routes

/-- Operations at different places of a document have different route keys. -/
theorem routeKey_ne_of_operationAt? {index : TypeIndex} {info : DocumentInfo}
    {services : List ServiceSpec} {d : ApiDocument}
    (h : ApiDocument.aggregate index info services = .ok d) {a b key : String} (hne : a ≠ b)
    (ha : (operationAt? d.paths (a, key)).isSome = true)
    (hb : (operationAt? d.paths (b, key)).isSome = true) :
    ∃ verb, routeKeyOf verb a ≠ routeKeyOf verb b := by
  obtain ⟨hnodup, hpaths⟩ := aggregate_eq_ok h
  have hplace : ∀ path, (operationAt? d.paths (path, key)).isSome = true →
      ∃ p ∈ participants services, p.place = (path, key) := by
    intro path hsome
    obtain ⟨operation, hoperation⟩ := Option.isSome_iff_exists.1 hsome
    rw [hpaths, operationAt?_pathsOf_eq_some_iff (Participant.nodup_place hnodup)] at hoperation
    obtain ⟨p, hp, hplace, -⟩ := hoperation
    exact ⟨p, hp, hplace⟩
  obtain ⟨p, hp, hpa⟩ := hplace a ha
  obtain ⟨q, hq, hqb⟩ := hplace b hb
  obtain ⟨rfl, hkey⟩ := Prod.mk.inj hpa
  obtain ⟨rfl, hkey'⟩ := Prod.mk.inj hqb
  have hverb : p.method.verb = q.method.verb := Verb.key_inj (hkey.trans hkey'.symm)
  refine ⟨p.method.verb, ?_⟩
  intro heq
  apply hne
  have hroute : p.routeKey = q.routeKey := by
    rw [Participant.routeKey, Participant.routeKey, MethodSpec.routeKey, MethodSpec.routeKey,
      heq, hverb]
  rw [List.inj_on_of_nodup_map hnodup hp hq hroute]

/-- **Routes and requests.** Two templates whose segments are whole have one shape exactly if they
match the same paths and end with the same slashes. So where they are routes of methods of a built
service, or of operations of a document, with one verb, they match the same paths only if their
slashes at the end differ. -/
theorem routes_apart {a b : String} (ha : IsWholeTemplate a) (hb : IsWholeTemplate b) :
    (routeShape a = routeShape b ↔ SameRequests a b ∧ trailingSlashes a = trailingSlashes b) ∧
    (∀ index marker decl s, ServiceSpec.build index marker decl = .ok (some s) →
      s.methods.Pairwise fun m m' => m.verb = m'.verb → m.uriTemplate = a → m'.uriTemplate = b →
        SameRequests a b → trailingSlashes a ≠ trailingSlashes b) ∧
    (∀ index info services d, ApiDocument.aggregate index info services = .ok d → a ≠ b →
      ∀ key, (operationAt? d.paths (a, key)).isSome = true →
        (operationAt? d.paths (b, key)).isSome = true →
        SameRequests a b → trailingSlashes a ≠ trailingSlashes b) := by
  refine ⟨routeShape_eq_iff ha hb, ?_, ?_⟩
  · intro index marker decl s hbuild
    apply (ServiceSpec.built_of_build hbuild).pairwise_routeKey.imp
    rintro m m' hkey hverb rfl rfl hsame
    rw [MethodSpec.routeKey, MethodSpec.routeKey, ← hverb] at hkey
    exact trailingSlashes_ne ha hb hkey hsame
  · intro index info services d hd hne key hsome hsome' hsame
    obtain ⟨verb, hkey⟩ := routeKey_ne_of_operationAt? hd hne hsome hsome'
    exact trailingSlashes_ne ha hb hkey hsame

/-- A trait with two methods, whose templates differ in a slash at the end. -/
def itemsTrait : InterfaceDecl :=
  { searchTrait with
    methods := searchTrait.methods.flatMap fun m =>
      [ { m with
          name := "list"
          docs := ["@gtg method GET", "@gtg uri-path /items"]
          params := [] },
        { m with
          name := "all"
          docs := ["@gtg method GET", "@gtg uri-path /items/"]
          params := [] } ] }

theorem isWholeTemplate_items : IsWholeTemplate "/items" ∧ IsWholeTemplate "/items/" := by
  have hvars : pathVariables "/items" = .ok [] ∧ pathVariables "/items/" = .ok [] := by
    decide +kernel
  have hwhole : (∀ segment ∈ segments "/items".toList, IsWholeSegment segment) ∧
      ∀ segment ∈ segments "/items/".toList, IsWholeSegment segment := by
    decide +kernel
  exact ⟨⟨⟨_, hvars.1⟩, hwhole.1⟩, ⟨_, hvars.2⟩, hwhole.2⟩

theorem sameRequests_items : SameRequests "/items" "/items/" := by
  obtain ⟨hlist, hall⟩ := isWholeTemplate_items
  have hpatterns : patternsOf "/items" = patternsOf "/items/" := by decide +kernel
  exact (sameRequests_iff_patterns hlist hall).2 hpatterns

theorem exists_build_items :
    ∃ s m m', ServiceSpec.build {} "@gtg" itemsTrait = .ok (some s) ∧ s.methods = [m, m'] ∧
      m.verb = m'.verb ∧ m.uriTemplate = "/items" ∧ m'.uriTemplate = "/items/" ∧
      ∃ d, ApiDocument.aggregate {} {} [s] = .ok d ∧
        (operationAt? d.paths ("/items", "get")).isSome = true ∧
        (operationAt? d.paths ("/items/", "get")).isSome = true := by
  have hbuild : (ServiceSpec.build {} "@gtg" itemsTrait).toOption.join.any (fun s =>
      s.methods.map (fun m => (m.verb, m.uriTemplate)) = [(.get, "/items"), (.get, "/items/")] ∧
      ((ApiDocument.aggregate {} {} [s]).map some).toOption.join.any (fun d =>
        (operationAt? d.paths ("/items", "get")).isSome = true ∧
          (operationAt? d.paths ("/items/", "get")).isSome = true) = true) = true := by
    decide +kernel
  obtain ⟨s, hs, hroutes, hdocument⟩ := exists_ok_of_any hbuild
  obtain ⟨m, rest, heq, hm, hrest⟩ := List.map_eq_cons_iff.1 hroutes
  obtain ⟨m', rfl, hm'⟩ := List.map_eq_singleton_iff.1 hrest
  obtain ⟨hverb, htemplate⟩ := Prod.mk.inj hm
  obtain ⟨hverb', htemplate'⟩ := Prod.mk.inj hm'
  obtain ⟨d, haggregate, hplaces⟩ := exists_ok_of_any hdocument
  obtain ⟨_, hd, hsome⟩ := map_eq_ok.1 haggregate
  rw [Option.some.inj hsome] at hd
  exact ⟨s, m, m', hs, heq, hverb.trans hverb'.symm, htemplate, htemplate', d, hd, hplaces⟩

/-- Templates of one shape, and two routes of a service and of its document. -/
theorem routes_apart_items :
    routeShape "/items/\x7bid\x7d" = routeShape "/items/\x7bkey\x7d" ∧
      SameRequests "/items/\x7bid\x7d" "/items/\x7bkey\x7d" ∧
      ∃ s m m' d, ServiceSpec.build {} "@gtg" itemsTrait = .ok (some s) ∧ s.methods = [m, m'] ∧
        m.verb = m'.verb ∧ SameRequests m.uriTemplate m'.uriTemplate ∧
        trailingSlashes m.uriTemplate ≠ trailingSlashes m'.uriTemplate ∧
        ApiDocument.aggregate {} {} [s] = .ok d ∧
        (operationAt? d.paths ("/items", "get")).isSome = true ∧
        (operationAt? d.paths ("/items/", "get")).isSome = true ∧
        trailingSlashes "/items" ≠ trailingSlashes "/items/" := by
  have hid : IsWholeTemplate "/items/\x7bid\x7d" :=
    ⟨⟨["id"], by decide +kernel⟩, by decide +kernel⟩
  have hkey : IsWholeTemplate "/items/\x7bkey\x7d" :=
    ⟨⟨["key"], by decide +kernel⟩, by decide +kernel⟩
  have hshape : routeShape "/items/\x7bid\x7d" = routeShape "/items/\x7bkey\x7d" := by
    decide +kernel
  obtain ⟨hsame, -⟩ := (routes_apart hid hkey).1.1 hshape
  obtain ⟨s, m, m', hs, heq, hverb, htemplate, htemplate', d, hd, hfirst, hlast⟩ :=
    exists_build_items
  obtain ⟨hlist, hall⟩ := isWholeTemplate_items
  obtain ⟨-, hmethods, hoperations⟩ := routes_apart hlist hall
  have hpair := hmethods {} "@gtg" itemsTrait s hs
  rw [heq, List.pairwise_cons] at hpair
  have hends := hpair.1 m' List.mem_cons_self hverb htemplate htemplate' sameRequests_items
  refine ⟨hshape, hsame, s, m, m', d, hs, heq, hverb, ?_, ?_, hd, hfirst, hlast, ?_⟩
  · rw [htemplate, htemplate']
    exact sameRequests_items
  · rw [htemplate, htemplate']
    exact hends
  · exact hoperations {} {} [s] d hd (by decide) "get" hfirst hlast sameRequests_items

/-- **Not all routes are apart.** Two methods of a built service have one verb and match the same
paths, and the shapes of their templates differ. -/
theorem same_requests_items :
    ∃ s m m', ServiceSpec.build {} "@gtg" itemsTrait = .ok (some s) ∧ s.methods = [m, m'] ∧
      m.verb = m'.verb ∧ IsWholeTemplate m.uriTemplate ∧ IsWholeTemplate m'.uriTemplate ∧
      SameRequests m.uriTemplate m'.uriTemplate ∧
      routeShape m.uriTemplate ≠ routeShape m'.uriTemplate := by
  obtain ⟨s, m, m', hs, heq, hverb, htemplate, htemplate', -⟩ := exists_build_items
  obtain ⟨hlist, hall⟩ := isWholeTemplate_items
  have hshapes : routeShape "/items" ≠ routeShape "/items/" := by decide +kernel
  refine ⟨s, m, m', hs, heq, hverb, ?_⟩
  rw [htemplate, htemplate']
  exact ⟨hlist, hall, sameRequests_items, hshapes⟩

end TransportGen
