import TransportGen.Proofs.Document.Metadata
import TransportGen.Proofs.Text.Cutting

/-!
# Ids of operations

An operation of the API document is called by the name of its trait, an underscore and the name of its
method. Both names may have underscores, and the module of the trait does not show. So operations of
different traits have one id where traits of one name have methods of one name, or where the name of
one trait goes on with what the name of the other's method begins with.

* `operationId_eq_iff`: the names that are glued to one id.
* `hasUniqueIds_iff`: when all ids of a document are different.
* `shared_ids_shop`: three operations with one id.
-/

namespace TransportGen

/-! ## Names that are glued -/

/-- The id of an operation. -/
def operationId (interface method : String) : String := interface ++ "_" ++ method

theorem operationId_eq_iff {t u m n : String} :
    operationId t m = operationId u n ↔ (t = u ∧ m = n) ∨
      (∃ mid, u = operationId t mid ∧ m = operationId mid n) ∨
      ∃ mid, t = operationId u mid ∧ n = operationId mid m := by
  have hlist : ∀ a b : String, (operationId a b).toList = a.toList ++ '_' :: b.toList := by
    intro a b
    simp [operationId]
  have hexists : ∀ a b c d : String,
      (∃ mid, b = operationId a mid ∧ c = operationId mid d) ↔
        ∃ mid, b.toList = a.toList ++ '_' :: mid ∧ c.toList = mid ++ '_' :: d.toList := by
    intro a b c d
    constructor
    · rintro ⟨mid, rfl, rfl⟩
      exact ⟨mid.toList, hlist a mid, hlist mid d⟩
    · rintro ⟨mid, hb, hc⟩
      refine ⟨String.ofList mid, ?_, ?_⟩
      · rw [← String.toList_inj, hlist, String.toList_ofList, hb]
      · rw [← String.toList_inj, hlist, String.toList_ofList, hc]
  rw [hexists, hexists, ← String.toList_inj, hlist, hlist, append_cons_eq_append_cons_iff,
    String.toList_inj, String.toList_inj]

/-! ## Operations and their ids -/

/-- Operations at different places have different ids. -/
def ApiDocument.HasUniqueIds (d : ApiDocument) : Prop :=
  ∀ a b operation other, operationAt? d.paths a = some operation →
    operationAt? d.paths b = some other → operation.operationId = other.operationId → a = b

namespace Participant

/-- The id of the operation of a method. -/
def id (p : Participant) : String := operationId p.interface p.method.name

end Participant

theorem ApiDocument.hasUniqueIds_iff_participants {index : TypeIndex} {info : DocumentInfo}
    {services : List ServiceSpec} {d : ApiDocument}
    (h : ApiDocument.aggregate index info services = .ok d) :
    d.HasUniqueIds ↔ ∀ p ∈ participants services, ∀ q ∈ participants services,
      p.id = q.id → p = q := by
  obtain ⟨hnodup, hpaths⟩ := aggregate_eq_ok h
  have hplaces := Participant.nodup_place hnodup
  rw [HasUniqueIds, hpaths]
  simp only [operationAt?_pathsOf_eq_some_iff hplaces]
  constructor
  · intro hunique p hp q hq hid
    have hplace := hunique p.place q.place _ _ ⟨p, hp, rfl, rfl⟩ ⟨q, hq, rfl, rfl⟩ hid
    exact List.inj_on_of_nodup_map hplaces hp hq hplace
  · rintro hunique a b _ _ ⟨p, hp, rfl, rfl⟩ ⟨q, hq, rfl, rfl⟩ hid
    rw [hunique p hp q hq hid]

/-! ## Traits -/

/-- What tells traits apart. -/
def InterfaceDecl.key (decl : InterfaceDecl) : String × String := (decl.modulePath, decl.name)

namespace BuiltTrait

/-- The names of the methods that the trait has operations for. -/
def methodNames (t : BuiltTrait) : List String := (t.decl.marked t.marker).map (·.name)

theorem map_name_methods (t : BuiltTrait) :
    t.service.methods.map (·.name) = t.methodNames := by
  obtain ⟨contract, hmethods, hcontracts⟩ :=
    (ServiceSpec.built_of_build t.built).exists_contract
  rw [hmethods, List.map_map, methodNames]
  apply List.map_congr_left
  intro m hm
  obtain ⟨d, -, hbuilt⟩ := hcontracts m hm
  exact congrArg MethodSpec.name hbuilt.eq

theorem interfaceName_eq (t : BuiltTrait) : t.service.interfaceName = t.decl.name :=
  congrArg ServiceSpec.interfaceName (ServiceSpec.built_of_build t.built).eq

theorem id_participants (t : BuiltTrait) :
    t.service.participants.map Participant.id = t.methodNames.map (operationId t.decl.name) := by
  rw [ServiceSpec.participants, List.map_map, ← t.map_name_methods, List.map_map,
    ← t.interfaceName_eq]
  rfl

/-- Two traits whose operations have no id in common. -/
structure IdsApart (t u : BuiltTrait) : Prop where
  /-- Where the traits have one name, their methods have none in common. -/
  same : t.decl.name = u.decl.name → ∀ m ∈ t.methodNames, m ∉ u.methodNames
  /-- Where the name of the second begins with that of the first and an underscore, no method of the
  first has the rest, an underscore and the name of a method of the second. -/
  longer : ∀ rest, u.decl.name = t.decl.name ++ "_" ++ rest →
    ∀ n ∈ u.methodNames, rest ++ "_" ++ n ∉ t.methodNames

theorem idsApart_iff {t u : BuiltTrait} :
    (t.IdsApart u ∧ u.IdsApart t) ↔ ∀ p ∈ t.service.participants, ∀ q ∈ u.service.participants,
      p.id ≠ q.id := by
  have hids : (∀ p ∈ t.service.participants, ∀ q ∈ u.service.participants, p.id ≠ q.id) ↔
      ∀ m ∈ t.methodNames, ∀ n ∈ u.methodNames,
        operationId t.decl.name m ≠ operationId u.decl.name n := by
    rw [← List.forall_mem_map (P := fun x => ∀ q ∈ u.service.participants, x ≠ q.id),
      t.id_participants, List.forall_mem_map]
    refine forall₂_congr fun m _ => ?_
    rw [← List.forall_mem_map (P := fun x => operationId t.decl.name m ≠ x), u.id_participants,
      List.forall_mem_map]
  rw [hids]
  constructor
  · rintro ⟨htu, hut⟩ m hm n hn hid
    rcases operationId_eq_iff.1 hid with ⟨hname, rfl⟩ | ⟨rest, hname, rfl⟩ | ⟨rest, hname, rfl⟩
    · exact htu.same hname m hm hn
    · exact htu.longer rest hname n hn hm
    · exact hut.longer rest hname m hm hn
  · intro hne
    refine ⟨⟨?_, ?_⟩, ⟨?_, ?_⟩⟩
    · intro hname m hm hn
      exact hne m hm m hn (operationId_eq_iff.2 (Or.inl ⟨hname, rfl⟩))
    · intro rest hname n hn hm
      exact hne _ hm n hn (operationId_eq_iff.2 (Or.inr (Or.inl ⟨rest, hname, rfl⟩)))
    · intro hname n hn hm
      exact hne n hm n hn (operationId_eq_iff.2 (Or.inl ⟨hname.symm, rfl⟩))
    · intro rest hname m hm hn
      exact hne m hm _ hn (operationId_eq_iff.2 (Or.inr (Or.inr ⟨rest, hname, rfl⟩)))

/-- Operations of one trait have different ids. -/
theorem eq_of_id_eq (t : BuiltTrait) (hnames : (t.decl.methods.map (·.name)).Nodup)
    {p q : Participant} (hp : p ∈ t.service.participants) (hq : q ∈ t.service.participants)
    (hid : p.id = q.id) : p = q := by
  have hmarked : t.methodNames.Nodup := hnames.sublist (List.filter_sublist.map _)
  have hnodup : (t.service.participants.map Participant.id).Nodup := by
    rw [t.id_participants]
    refine hmarked.map fun m n hmn => ?_
    exact (String.append_right_inj _).1 hmn
  exact List.inj_on_of_nodup_map hnodup hp hq hid

end BuiltTrait

theorem participants_map_service (traits : List BuiltTrait) :
    participants (traits.map (·.service)) =
      (traits.filter (·.service.has .swagger)).flatMap (·.service.participants) := by
  rw [participants, List.filter_map, List.flatMap_map]
  rfl

/-- No method of a document belongs to two services. -/
theorem eq_of_mem_participants {traits : List BuiltTrait}
    (h : ((participants (traits.map (·.service))).map Participant.routeKey).Nodup)
    {t u : BuiltTrait} (ht : t ∈ traits.filter (·.service.has .swagger))
    (hu : u ∈ traits.filter (·.service.has .swagger)) {p : Participant}
    (hpt : p ∈ t.service.participants) (hpu : p ∈ u.service.participants) : t = u := by
  by_contra hne
  have hnodup := h.of_map
  rw [participants_map_service, List.nodup_flatMap] at hnodup
  have hsymm : Std.Symm
      (Function.onFun List.Disjoint fun t : BuiltTrait => t.service.participants) := by
    constructor
    intro a b hab q hb ha
    exact hab ha hb
  exact hnodup.2.forall ht hu hne hpt hpu

/-- **When operation ids are unique.** Where different traits have been built to services and these
make a document, its ids are different exactly if those of any two of the traits are apart. -/
theorem hasUniqueIds_iff {index : TypeIndex} {info : DocumentInfo} {traits : List BuiltTrait}
    {d : ApiDocument} (hkeys : (traits.map (·.decl.key)).Nodup)
    (hnames : ∀ t ∈ traits, (t.decl.methods.map (·.name)).Nodup)
    (h : ApiDocument.aggregate index info (traits.map (·.service)) = .ok d) :
    d.HasUniqueIds ↔ ∀ t ∈ traits, ∀ u ∈ traits, t.service.has .swagger = true →
      u.service.has .swagger = true → t.decl.key ≠ u.decl.key → t.IdsApart u := by
  have hmem : ∀ p, p ∈ participants (traits.map (·.service)) ↔
      ∃ t ∈ traits, t.service.has .swagger = true ∧ p ∈ t.service.participants := by
    intro p
    rw [participants_map_service, List.mem_flatMap]
    simp only [List.mem_filter, and_assoc]
  rw [ApiDocument.hasUniqueIds_iff_participants h]
  simp only [hmem]
  constructor
  · intro hunique t ht u hu hselected hselected' hkey
    refine (BuiltTrait.idsApart_iff.2 ?_).1
    intro p hp q hq hid
    -- Two methods with one id would be one method, and no method belongs to two services.
    have heq := hunique p ⟨t, ht, hselected, hp⟩ q ⟨u, hu, hselected', hq⟩ hid
    have htu : t = u := eq_of_mem_participants (aggregate_eq_ok h).1
      (List.mem_filter.2 ⟨ht, hselected⟩) (List.mem_filter.2 ⟨hu, hselected'⟩) hp (heq ▸ hq)
    rw [htu] at hkey
    exact hkey rfl
  · rintro hapart p ⟨t, ht, hselected, hp⟩ q ⟨u, hu, hselected', hq⟩ hid
    by_cases hkey : t.decl.key = u.decl.key
    · have htu : t = u := List.inj_on_of_nodup_map hkeys ht hu hkey
      subst htu
      exact t.eq_of_id_eq (hnames t ht) hp hq hid
    · have hids := BuiltTrait.idsApart_iff.1 ⟨hapart t ht u hu hselected hselected' hkey,
        hapart u hu t ht hselected' hselected (Ne.symm hkey)⟩
      exact (hids p hp q hq hid).elim

/-- A trait with one method. -/
def shopTrait (modulePath name method path : String) : InterfaceDecl :=
  { searchTrait with
    modulePath
    name
    methods := searchTrait.methods.map fun m =>
      { m with
        name := method
        docs := ["@gtg method GET", "@gtg uri-path " ++ path]
        params := [] } }

/-- A trait whose service has one operation, with a given id and route key. -/
def BuiltTrait.Offers (t : BuiltTrait) (id routeKey : String) : Prop :=
  t.service.has .swagger = true ∧ t.service.participants.map (fun p => (p.id, p.routeKey)) =
    [(id, routeKey)]

theorem exists_built_of_any {decl : InterfaceDecl} {id routeKey : String}
    (h : (ServiceSpec.build {} "@gtg" decl).toOption.join.any (fun s => s.has .swagger = true ∧
      s.participants.map (fun p => (p.id, p.routeKey)) = [(id, routeKey)]) = true) :
    ∃ t : BuiltTrait, t.decl = decl ∧ t.marker = "@gtg" ∧ t.Offers id routeKey := by
  obtain ⟨s, hs, hoffers⟩ := exists_ok_of_any h
  exact ⟨⟨{}, "@gtg", decl, s, hs⟩, rfl, rfl, hoffers⟩

theorem exists_built_shops :
    (∃ t : BuiltTrait, t.decl = shopTrait "crate::a" "Shop" "item_list" "/a" ∧ t.marker = "@gtg" ∧
      t.Offers "Shop_item_list" "GET /a") ∧
    (∃ t : BuiltTrait, t.decl = shopTrait "crate::b" "Shop" "item_list" "/b" ∧ t.marker = "@gtg" ∧
      t.Offers "Shop_item_list" "GET /b") ∧
    (∃ t : BuiltTrait, t.decl = shopTrait "crate::a" "Shop_item" "list" "/c" ∧ t.marker = "@gtg" ∧
      t.Offers "Shop_item_list" "GET /c") ∧
    ∃ t : BuiltTrait, t.decl = shopTrait "crate::a" "Shop_item" "all" "/c" ∧ t.marker = "@gtg" ∧
      t.Offers "Shop_item_all" "GET /c" := by
  refine ⟨?_, ?_, ?_, ?_⟩ <;> exact exists_built_of_any (by decide +kernel)

/-- The ids and route keys of a document whose services have one operation each. -/
theorem map_participants_of_offers {traits : List BuiltTrait} {offers : List (String × String)}
    (h : List.Forall₂ (fun t offer => t.Offers offer.1 offer.2) traits offers) :
    (participants (traits.map (·.service))).map (fun p => (p.id, p.routeKey)) = offers := by
  induction h with
  | nil => rfl
  | @cons t offer rest others hoffer _ ih =>
    have hselected : (t :: rest).filter (·.service.has .swagger) =
        t :: rest.filter (·.service.has .swagger) := by
      simp [hoffer.1]
    rw [participants_map_service] at ih
    rw [participants_map_service, hselected, List.flatMap_cons, List.map_append, hoffer.2, ih]
    rfl

theorem exists_aggregate_of_offers {traits : List BuiltTrait} {offers : List (String × String)}
    (h : List.Forall₂ (fun t offer => t.Offers offer.1 offer.2) traits offers)
    (hroutes : (offers.map Prod.snd).Nodup) :
    ∃ d, ApiDocument.aggregate {} {} (traits.map (·.service)) = .ok d := by
  apply exists_aggregate
  rw [← map_participants_of_offers h, List.map_map] at hroutes
  exact hroutes

/-- Three operations with one id. -/
def shopOffers : List (String × String) :=
  [("Shop_item_list", "GET /a"), ("Shop_item_list", "GET /b"), ("Shop_item_list", "GET /c")]

/-- Two traits of one name in two modules, and a trait whose name goes on with an underscore: all three
operations have one id. -/
theorem shared_ids_shop :
    ∃ (traits : List BuiltTrait) (d : ApiDocument),
      traits.map (·.decl) = [shopTrait "crate::a" "Shop" "item_list" "/a",
        shopTrait "crate::b" "Shop" "item_list" "/b",
        shopTrait "crate::a" "Shop_item" "list" "/c"] ∧
      (traits.map (·.decl.key)).Nodup ∧
      (∀ t ∈ traits, (t.decl.methods.map (·.name)).Nodup) ∧
      ApiDocument.aggregate {} {} (traits.map (·.service)) = .ok d ∧
      (∀ place operation, operationAt? d.paths place = some operation →
        operation.operationId = "Shop_item_list") ∧
      ¬d.HasUniqueIds := by
  obtain ⟨⟨t, ht, -, hoffer⟩, ⟨u, hu, -, hoffer'⟩, ⟨v, hv, -, hoffer''⟩, -⟩ := exists_built_shops
  have hoffers : List.Forall₂ (fun t offer => t.Offers offer.1 offer.2) [t, u, v] shopOffers :=
    .cons hoffer (.cons hoffer' (.cons hoffer'' .nil))
  have hids := map_participants_of_offers hoffers
  have hmem : ∀ offer ∈ shopOffers,
      ∃ p ∈ participants ([t, u, v].map (·.service)), (p.id, p.routeKey) = offer := by
    intro offer hoffer
    rw [← hids] at hoffer
    exact List.mem_map.1 hoffer
  obtain ⟨d, hd⟩ := exists_aggregate_of_offers hoffers (by decide)
  obtain ⟨hroutes, hpaths⟩ := aggregate_eq_ok hd
  refine ⟨[t, u, v], d, ?_, ?_, ?_, hd, ?_, ?_⟩
  · simp [ht, hu, hv]
  · simp only [List.map_cons, List.map_nil, ht, hu, hv]
    decide
  · simp only [List.forall_mem_cons, ht, hu, hv]
    exact ⟨by decide, by decide, by decide, by simp⟩
  · intro place operation hoperation
    rw [hpaths, operationAt?_pathsOf_eq_some_iff (Participant.nodup_place hroutes)] at hoperation
    obtain ⟨p, hp, -, rfl⟩ := hoperation
    have hid : (p.id, p.routeKey) ∈ shopOffers := by
      rw [← hids]
      exact List.mem_map_of_mem hp
    have hall : ∀ offer ∈ shopOffers, offer.1 = "Shop_item_list" := by decide
    exact hall _ hid
  · rw [ApiDocument.hasUniqueIds_iff_participants hd]
    intro hunique
    obtain ⟨p, hp, hpoffer⟩ := hmem ("Shop_item_list", "GET /a") (by decide)
    obtain ⟨q, hq, hqoffer⟩ := hmem ("Shop_item_list", "GET /b") (by decide)
    obtain ⟨hpid, hproute⟩ := Prod.mk.inj hpoffer
    obtain ⟨hqid, hqroute⟩ := Prod.mk.inj hqoffer
    rw [hunique p hp q hq (hpid.trans hqid.symm), hqroute] at hproute
    exact absurd hproute (by decide)

/-- Two traits whose ids are apart although the name of one goes on with an underscore. -/
theorem hasUniqueIds_shop :
    ∃ (traits : List BuiltTrait) (d : ApiDocument),
      traits.map (·.decl) = [shopTrait "crate::a" "Shop" "item_list" "/a",
        shopTrait "crate::a" "Shop_item" "all" "/c"] ∧
      (traits.map (·.decl.key)).Nodup ∧
      (∀ t ∈ traits, (t.decl.methods.map (·.name)).Nodup) ∧
      ApiDocument.aggregate {} {} (traits.map (·.service)) = .ok d ∧ d.HasUniqueIds := by
  obtain ⟨⟨t, ht, hmarker, hoffer⟩, -, -, ⟨u, hu, hmarker', hoffer'⟩⟩ := exists_built_shops
  have hoffers : List.Forall₂ (fun t offer => t.Offers offer.1 offer.2) [t, u]
      [("Shop_item_list", "GET /a"), ("Shop_item_all", "GET /c")] :=
    .cons hoffer (.cons hoffer' .nil)
  obtain ⟨d, hd⟩ := exists_aggregate_of_offers hoffers (by decide)
  have hkeys : ([t, u].map (·.decl.key)).Nodup := by
    simp only [List.map_cons, List.map_nil, ht, hu]
    decide
  have hnames : ∀ trait ∈ [t, u], (trait.decl.methods.map (·.name)).Nodup := by
    simp only [List.forall_mem_cons, ht, hu]
    exact ⟨by decide, by decide, by simp⟩
  have hmethods : t.methodNames = ["item_list"] ∧ u.methodNames = ["all"] := by
    simp only [BuiltTrait.methodNames, ht, hu, hmarker, hmarker']
    decide +kernel
  have hname : t.decl.name = "Shop" ∧ u.decl.name = "Shop" ++ "_" ++ "item" := by
    rw [ht, hu]
    decide
  have htu : t.IdsApart u := by
    constructor
    · rw [hname.1, hname.2]
      intro heq
      exact absurd heq (by decide)
    · rw [hname.1, hname.2, hmethods.1, hmethods.2]
      intro rest heq n hn
      rw [← (String.append_right_inj _).1 heq, List.mem_singleton.1 hn]
      decide
  have hut : u.IdsApart t := by
    constructor
    · rw [hname.1, hname.2]
      intro heq
      exact absurd heq (by decide)
    · rw [hname.1, hname.2]
      intro rest heq
      have hlength := congrArg String.length heq
      simp only [String.length_append] at hlength
      have hshop : "Shop".length = 4 ∧ "item".length = 4 := by decide
      omega
  refine ⟨[t, u], d, by simp [ht, hu], hkeys, hnames, hd, ?_⟩
  rw [hasUniqueIds_iff hkeys hnames hd]
  intro a ha b hb _ _ hkey
  simp only [List.mem_cons, List.not_mem_nil, or_false] at ha hb
  rcases ha with rfl | rfl <;> rcases hb with rfl | rfl
  · exact absurd rfl hkey
  · exact htu
  · exact hut
  · exact absurd rfl hkey

end TransportGen
