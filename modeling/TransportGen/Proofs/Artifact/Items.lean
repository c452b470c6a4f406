import Mathlib.Data.List.Perm.Basic
import TransportGen.Proofs.Artifact.Heads
import TransportGen.Proofs.Artifact.Scope
import TransportGen.Proofs.Service.WireNames

/-!
# Names of generated items

The functions of a generated file are in one namespace, and its types are in another.

* `itemsApart_serverTransport_iff`, `itemsApart_clientTransport_iff`, `itemsApart_mock_iff`,
  `itemsApart_instrumenting_iff`: when the names that one file makes up for the methods of a service
  are different from each other and from those that stand in every such file.
* `items_apart_iff`: which names of methods keep the items of all files apart.
* `items_clash_finish`: the builder does not refuse other names.
-/

namespace TransportGen

open Artifact

/-! ## Spellings -/

section Spellings

variable {a b s t : String}

theorem append_ne (h : ¬s.toList <:+ t.toList) : a ++ s ≠ t := by
  rintro rfl
  exact h (by simp)

theorem append_ne_append (hs : ¬s.toList <:+ t.toList) (ht : ¬t.toList <:+ s.toList) :
    a ++ s ≠ b ++ t := by
  intro heq
  have hleft : s.toList <:+ (b ++ t).toList := by
    rw [← heq]
    simp
  have hright : t.toList <:+ (b ++ t).toList := by simp
  rcases List.suffix_or_suffix_of_suffix hleft hright with h | h
  · exact hs h
  · exact ht h

theorem plainName_of_raw {rest : List Char} (h : s.toList = 'r' :: '#' :: rest) :
    plainName s = String.ofList rest := by
  have hraw : Text.stripStart? "r#".toList s.toList = some rest := by
    rw [Text.stripStart?_eq_some_iff, h]
    rfl
  rw [plainName, hraw]
  rfl

theorem plainName_eq_self (h : ∀ rest, s.toList ≠ 'r' :: '#' :: rest) : plainName s = s := by
  have hraw : Text.stripStart? "r#".toList s.toList = none := by
    rw [Option.eq_none_iff_forall_ne_some]
    intro rest hrest
    exact h rest (Text.stripStart?_eq_some_iff.1 hrest).symm
  rw [plainName, hraw]
  rfl

theorem plainName_of_head {c : Char} (h : s.toList.head? = some c) (hc : c ≠ 'r') :
    plainName s = s := by
  apply plainName_eq_self
  intro rest hrest
  rw [hrest] at h
  exact hc (Option.some.inj h).symm

/-- A suffix does not take part in the mark of a raw name, unless it begins like one. -/
theorem plainName_append (hs : s.toList.head?.any (fun c => c ≠ 'r' ∧ c ≠ '#') = true) :
    plainName (a ++ s) = plainName a ++ s := by
  obtain ⟨c, h, hc⟩ := (Option.any_eq_true _ _).1 hs
  obtain ⟨hr, hmark⟩ := of_decide_eq_true hc
  by_cases hraw : ∃ rest, a.toList = 'r' :: '#' :: rest
  · obtain ⟨rest, hrest⟩ := hraw
    have happend : (a ++ s).toList = 'r' :: '#' :: (rest ++ s.toList) := by
      rw [String.toList_append, hrest]
      rfl
    rw [plainName_of_raw hrest, plainName_of_raw happend]
    simp
  · rw [not_exists] at hraw
    rw [plainName_eq_self hraw]
    apply plainName_eq_self
    intro rest hrest
    rw [String.toList_append] at hrest
    cases hchars : a.toList with
    | nil =>
      rw [hchars, List.nil_append] at hrest
      rw [hrest] at h
      exact hr (Option.some.inj h).symm
    | cons x tail =>
      rw [hchars, List.cons_append, List.cons.injEq] at hrest
      cases tail with
      | nil =>
        rw [List.nil_append] at hrest
        rw [hrest.2] at h
        exact hmark (Option.some.inj h).symm
      | cons y tail =>
        rw [List.cons_append, List.cons.injEq] at hrest
        exact hraw tail (by rw [hchars, hrest.1, hrest.2.1])

end Spellings

/-! ## The names of a file -/

namespace Item

/-- The name of the function that an item defines. -/
def functionName? (item : Item) : Option String :=
  match item.defines with
  | .function name => some (plainName name)
  | _ => none

/-- The name of the type that an item defines. -/
def typeName? (item : Item) : Option String :=
  match item.defines with
  | .type name => some (plainName name)
  | _ => none

end Item

/-- The names of the functions that items define. -/
def functionNames (items : List Item) : List String := items.filterMap Item.functionName?

/-- The names of the types that items define. -/
def typeNames (items : List Item) : List String := items.filterMap Item.typeName?

/-- No two functions and no two types have one name. -/
structure ItemsApart (items : List Item) : Prop where
  functions : (functionNames items).Nodup
  types : (typeNames items).Nodup

theorem itemsApart_iff {items : List Item} :
    ItemsApart items ↔ (functionNames items).Nodup ∧ (typeNames items).Nodup :=
  ⟨fun h => ⟨h.functions, h.types⟩, fun h => ⟨h.1, h.2⟩⟩

instance (items : List Item) : Decidable (ItemsApart items) :=
  decidable_of_iff _ itemsApart_iff.symm

section Append

variable {α β : Type} {f g : α → List β} {l : List α}

theorem nodup_flatMap_append_iff :
    (l.flatMap fun x => f x ++ g x).Nodup ↔
      (l.flatMap f).Nodup ∧ (l.flatMap g).Nodup ∧
        ∀ a ∈ l, ∀ b ∈ l, ∀ x ∈ f a, ∀ y ∈ g b, x ≠ y := by
  rw [← (List.flatMap_append_perm l f g).nodup_iff, List.nodup_append]
  refine and_congr_right fun _ => and_congr_right fun _ => ?_
  simp only [List.mem_flatMap]
  constructor
  · exact fun h a ha b hb x hx y hy => h x ⟨a, ha, hx⟩ y ⟨b, hb, hy⟩
  · rintro h x ⟨a, ha, hx⟩ y ⟨b, hb, hy⟩
    exact h a ha b hb x hx y hy

/-- Two names for each of some things, and a list of other names. -/
theorem nodup_pairs_append_iff {f g : α → β} {fixed : List β} (hfixed : fixed.Nodup) :
    ((l.flatMap fun x => [f x, g x]) ++ fixed).Nodup ↔
      (l.map f).Nodup ∧ (l.map g).Nodup ∧ (∀ a ∈ l, ∀ b ∈ l, f a ≠ g b) ∧
        ∀ a ∈ l, f a ∉ fixed ∧ g a ∉ fixed := by
  have hpairs : (l.flatMap fun x => [f x, g x]).Nodup ↔
      (l.map f).Nodup ∧ (l.map g).Nodup ∧ ∀ a ∈ l, ∀ b ∈ l, f a ≠ g b := by
    have happend := nodup_flatMap_append_iff (f := fun x => [f x]) (g := fun x => [g x]) (l := l)
    simpa only [List.map_eq_flatMap, List.mem_singleton, forall_eq, List.cons_append,
      List.nil_append] using happend
  have hapart : (∀ x ∈ l.flatMap fun x => [f x, g x], ∀ y ∈ fixed, x ≠ y) ↔
      ∀ a ∈ l, f a ∉ fixed ∧ g a ∉ fixed := by
    rw [List.forall_mem_flatMap]
    refine forall₂_congr fun a _ => ?_
    rw [List.forall_mem_cons, List.forall_mem_singleton]
    exact and_congr List.forall_mem_ne List.forall_mem_ne
  rw [List.nodup_append, hpairs, hapart, and_iff_right hfixed, and_assoc, and_assoc]

theorem flatMap_ite_nil {p : α → Bool} {f : α → β} :
    (l.flatMap fun x => if p x then [] else [f x]) = (l.filter (! p ·)).map f := by
  induction l with
  | nil => rfl
  | cons x rest ih => cases hp : p x <;> simp [hp, ih]

theorem functionNames_append (a b : List Item) :
    functionNames (a ++ b) = functionNames a ++ functionNames b :=
  List.filterMap_append

theorem typeNames_append (a b : List Item) : typeNames (a ++ b) = typeNames a ++ typeNames b :=
  List.filterMap_append

theorem functionNames_flatMap (f : α → List Item) :
    functionNames (l.flatMap f) = l.flatMap fun x => functionNames (f x) :=
  List.filterMap_flatMap

theorem typeNames_flatMap (f : α → List Item) :
    typeNames (l.flatMap f) = l.flatMap fun x => typeNames (f x) :=
  List.filterMap_flatMap

end Append

/-! ## Structs of bodies -/

section Structs

variable {methods : List MethodView}

/-- The names of the structs for the bodies of a method. -/
def structNames (m : MethodView) : List String :=
  (if m.bodyParams.isEmpty then [] else [plainName (requestStruct m.pascal)]) ++
    (if m.wireFields.isEmpty then [] else [plainName (responseStruct m.pascal)])

theorem functionNames_struct (c : Bool) (derived name parameters : String)
    (fields : List (Option String × String)) :
    functionNames (if c then [] else [structItem derived name parameters fields]) = [] := by
  cases c <;> rfl

theorem typeNames_struct (c : Bool) (derived name parameters : String)
    (fields : List (Option String × String)) :
    typeNames (if c then [] else [structItem derived name parameters fields]) =
      if c then [] else [plainName name] := by
  cases c <;> rfl

/-- The structs for the bodies of all methods have different names. -/
def StructsApart (methods : List MethodView) : Prop :=
  ((methods.filter (! ·.bodyParams.isEmpty)).map (plainName ·.pascal)).Nodup ∧
    ((methods.filter (! ·.wireFields.isEmpty)).map (plainName ·.pascal)).Nodup

theorem nodup_map_append_iff {α : Type} {l : List α} {f : α → String} (s : String) :
    (l.map fun x => f x ++ s).Nodup ↔ (l.map f).Nodup := by
  rw [← Function.comp_def (· ++ s) f, ← List.map_map]
  exact List.nodup_map_iff fun a b h => (String.append_left_inj s).1 h

theorem plainName_requestStruct (pascal : String) :
    plainName (requestStruct pascal) = plainName pascal ++ "Body" :=
  plainName_append (by decide)

theorem plainName_responseStruct (pascal : String) :
    plainName (responseStruct pascal) = plainName pascal ++ "Response" :=
  plainName_append (by decide)

theorem mem_structNames {m : MethodView} {x : String} (h : x ∈ structNames m) :
    (∃ a, x = a ++ "Body") ∨ ∃ a, x = a ++ "Response" := by
  simp only [structNames, plainName_requestStruct, plainName_responseStruct] at h
  rcases List.mem_append.1 h with h | h
  · split at h
    · cases h
    · exact .inl ⟨_, List.mem_singleton.1 h⟩
  · split at h
    · cases h
    · exact .inr ⟨_, List.mem_singleton.1 h⟩

theorem nodup_structNames_iff : (methods.flatMap structNames).Nodup ↔ StructsApart methods := by
  have hne : ∀ a b : String, a ++ "Body" ≠ b ++ "Response" :=
    fun _ _ => append_ne_append (by decide) (by decide)
  unfold structNames
  simp only [plainName_requestStruct, plainName_responseStruct]
  rw [nodup_flatMap_append_iff, flatMap_ite_nil, flatMap_ite_nil, nodup_map_append_iff,
    nodup_map_append_iff, StructsApart, ← and_assoc, and_iff_left]
  intro a _ b _ x hx y hy
  split at hx
  · cases hx
  · split at hy
    · cases hy
    · rw [List.mem_singleton.1 hx, List.mem_singleton.1 hy]
      exact hne _ _

/-- The structs of the methods are kept apart from a type of another kind. -/
theorem nodup_cons_structNames_iff {x : String} (hbody : ¬"Body".toList <:+ x.toList)
    (hresponse : ¬"Response".toList <:+ x.toList) :
    (x :: methods.flatMap structNames).Nodup ↔ StructsApart methods := by
  rw [List.nodup_cons, nodup_structNames_iff, and_iff_right]
  intro hx
  obtain ⟨m, -, hx⟩ := List.mem_flatMap.1 hx
  rcases mem_structNames hx with ⟨a, rfl⟩ | ⟨a, rfl⟩
  · exact hbody (by simp)
  · exact hresponse (by simp)

end Structs

/-! ## Servers -/

section Server

variable {interface errorType : String} {methods : List MethodView}

/-- The functions of a server that do not belong to one method. -/
def helperNames (errorType : String) : List String :=
  (if errorType.isEmpty then [] else ["error_response"]) ++
    ["not_found", "bad_request", "internal_error", "json_error", "finish", "path_var",
      "query_value", "header_value", "percent_decode"]

theorem functionNames_serverMethodItems (m : MethodView) :
    functionNames (serverMethodItems interface m) =
      [plainName m.name] ++ ["encode_" ++ m.name ++ "_response"] := by
  have hplain : plainName ("encode_" ++ m.name ++ "_response") =
      "encode_" ++ m.name ++ "_response" := plainName_of_head (c := 'e') (by simp) (by decide)
  have hfunctions : functionNames [handlerItem interface m, encodeResponseItem m] =
      [plainName m.name, plainName ("encode_" ++ m.name ++ "_response")] := rfl
  rw [serverMethodItems, responseItems, functionNames_append, functionNames_append,
    functionNames_struct, functionNames_struct, hfunctions, hplain]
  rfl

theorem typeNames_serverMethodItems (m : MethodView) :
    typeNames (serverMethodItems interface m) = structNames m := by
  have hnone : typeNames [handlerItem interface m, encodeResponseItem m] = [] := rfl
  rw [serverMethodItems, responseItems, typeNames_append, typeNames_append, typeNames_struct,
    typeNames_struct, hnone, List.append_nil, structNames]

theorem functionNames_serverHelpers :
    functionNames (errorResponseItems errorType) ++ functionNames serverHelperItems =
      helperNames errorType := by
  have hhelpers : functionNames serverHelperItems =
      ["not_found", "bad_request", "internal_error", "json_error", "finish", "path_var",
        "query_value", "header_value", "percent_decode"] := by decide
  have herror : plainName "error_response" = "error_response" := by decide
  have herrors : functionNames (errorResponseItems errorType) =
      if errorType.isEmpty then [] else ["error_response"] := by
    rw [← herror, errorResponseItems]
    split <;> rfl
  rw [hhelpers, herrors, helperNames]

theorem typeNames_serverHelpers :
    typeNames (errorResponseItems errorType) ++ typeNames serverHelperItems = [] := by
  rw [errorResponseItems]
  split <;> rfl

theorem nodup_helperNames : (helperNames errorType).Nodup := by
  unfold helperNames
  split
  · decide
  · decide

theorem ne_of_mem_helperNames {x : String} (h : x ∈ helperNames errorType) (name : String) :
    x ≠ "encode_" ++ name ++ "_response" := by
  have hall : ∀ x ∈ "error_response" :: helperNames "", ¬"encode_".toList <+: x.toList := by decide
  have hx : x ∈ "error_response" :: helperNames "" := by
    unfold helperNames at h
    split at h
    · exact .tail _ h
    · exact h
  rintro rfl
  exact hall _ hx (by simp)

/-- The names of methods that leave the other functions of a server theirs. -/
def HandlersApart (errorType : String) (names : List String) : Prop :=
  (names.map plainName).Nodup ∧ ∀ name ∈ names, plainName name ∉ helperNames errorType ∧
    ∀ other ∈ names, plainName name ≠ "encode_" ++ other ++ "_response"

instance (errorType : String) (names : List String) : Decidable (HandlersApart errorType names) :=
  inferInstanceAs (Decidable (_ ∧ _))

theorem nodup_encoders (hnames : (methods.map (·.name)).Nodup) (start rest : String) :
    (methods.map fun m => start ++ m.name ++ rest).Nodup := by
  rw [nodup_map_append_iff, ← Function.comp_def (start ++ ·) MethodView.name, ← List.map_map]
  exact hnames.map fun a b h => (String.append_right_inj start).1 h

theorem itemsApart_serverTransport_iff (hnames : (methods.map (·.name)).Nodup) :
    ItemsApart (serverTransportItems interface errorType methods) ↔
      HandlersApart errorType (methods.map (·.name)) ∧ StructsApart methods := by
  have hfunctions : functionNames (serverTransportItems interface errorType methods) =
      (methods.flatMap fun m => [plainName m.name, "encode_" ++ m.name ++ "_response"]) ++
        helperNames errorType := by
    rw [serverTransportItems, functionNames_append, functionNames_append, functionNames_append,
      functionNames_flatMap, List.append_assoc, functionNames_serverHelpers]
    simp only [functionNames_serverMethodItems]
    rfl
  have htypes : typeNames (serverTransportItems interface errorType methods) =
      plainName "PathVars" :: methods.flatMap structNames := by
    rw [serverTransportItems, typeNames_append, typeNames_append, typeNames_append,
      typeNames_flatMap, List.append_assoc, typeNames_serverHelpers, List.append_nil]
    simp only [typeNames_serverMethodItems]
    rfl
  rw [itemsApart_iff, hfunctions, htypes, nodup_cons_structNames_iff (by decide) (by decide),
    nodup_pairs_append_iff nodup_helperNames, HandlersApart, List.map_map]
  simp only [List.forall_mem_map]
  refine and_congr_left fun _ => ?_
  constructor
  · rintro ⟨hhandlers, -, hencoders, hhelpers⟩
    exact ⟨hhandlers, fun m hm => ⟨(hhelpers m hm).1, fun other ho => hencoders m hm other ho⟩⟩
  · rintro ⟨hhandlers, hfree⟩
    exact ⟨hhandlers, nodup_encoders hnames _ _, fun m hm other ho => (hfree m hm).2 other ho,
      fun m hm => ⟨(hfree m hm).1, fun hmem => ne_of_mem_helperNames hmem m.name rfl⟩⟩

end Server

/-! ## Clients -/

section Client

variable {errorType : String} {methods : List MethodView}

theorem functionNames_clientMethodItems (m : MethodView) :
    functionNames (clientMethodItems m) =
      ["encode_" ++ m.name ++ "_request", "decode_" ++ m.name ++ "_response"] := by
  have hencode : plainName ("encode_" ++ m.name ++ "_request") =
      "encode_" ++ m.name ++ "_request" := plainName_of_head (c := 'e') (by simp) (by decide)
  have hdecode : plainName ("decode_" ++ m.name ++ "_response") =
      "decode_" ++ m.name ++ "_response" := plainName_of_head (c := 'd') (by simp) (by decide)
  have hfunctions : functionNames [encodeRequestItem m, decodeResponseItem m] =
      [plainName ("encode_" ++ m.name ++ "_request"),
        plainName ("decode_" ++ m.name ++ "_response")] := rfl
  rw [clientMethodItems, responseItems, functionNames_append, functionNames_append,
    functionNames_struct, functionNames_struct, hfunctions, hencode, hdecode]
  rfl

theorem typeNames_clientMethodItems (m : MethodView) :
    typeNames (clientMethodItems m) = structNames m := by
  have hnone : typeNames [encodeRequestItem m, decodeResponseItem m] = [] := rfl
  rw [clientMethodItems, responseItems, typeNames_append, typeNames_append, typeNames_struct,
    typeNames_struct, hnone, List.append_nil, structNames]

theorem itemsApart_clientTransport_iff (hnames : (methods.map (·.name)).Nodup) :
    ItemsApart (clientTransportItems errorType methods) ↔ StructsApart methods := by
  have hhelpers : functionNames (clientHelperItems errorType) =
      [plainName "decode_error", plainName "append_query", plainName "percent_encode"] := rfl
  have hplain : [plainName "decode_error", plainName "append_query", plainName "percent_encode"] =
      ["decode_error", "append_query", "percent_encode"] := by decide
  have hfunctions : functionNames (clientTransportItems errorType methods) =
      (methods.flatMap fun m =>
        ["encode_" ++ m.name ++ "_request", "decode_" ++ m.name ++ "_response"]) ++
        ["decode_error", "append_query", "percent_encode"] := by
    rw [clientTransportItems, functionNames_append, functionNames_append, functionNames_flatMap,
      hhelpers, hplain]
    simp only [functionNames_clientMethodItems]
    rfl
  have htypes : typeNames (clientTransportItems errorType methods) =
      plainName "HttpTransport" :: methods.flatMap structNames := by
    have hnone : typeNames (clientHelperItems errorType) = [] := rfl
    rw [clientTransportItems, typeNames_append, typeNames_append, typeNames_flatMap, hnone,
      List.append_nil]
    simp only [typeNames_clientMethodItems]
    rfl
  rw [itemsApart_iff, hfunctions, htypes,
    nodup_cons_structNames_iff (by decide) (by decide), nodup_pairs_append_iff (by decide)]
  refine and_iff_right ⟨nodup_encoders hnames _ _, nodup_encoders hnames _ _, ?_, ?_⟩
  · intro a _ b _
    exact append_ne_append (by decide) (by decide)
  · intro m _
    simp only [List.mem_cons, List.not_mem_nil, or_false, not_or]
    exact ⟨⟨append_ne (by decide), append_ne (by decide), append_ne (by decide)⟩,
      append_ne (by decide), append_ne (by decide), append_ne (by decide)⟩

end Client

/-! ## Mocks and decorators -/

section Wrappers

variable {interface : String} {methods : List MethodView}

theorem typeNames_setOff (items : List Item) : typeNames (setOff items) = typeNames items := by
  cases items <;> rfl

theorem functionNames_setOff (items : List Item) :
    functionNames (setOff items) = functionNames items := by
  cases items <;> rfl

theorem functionNames_mockItems : functionNames (mockItems interface methods) = ["lock"] := by
  have hlock : ["lock"] = [plainName "lock"] := by decide
  have hargs : functionNames (methods.map argsItem) = [] := by
    rw [functionNames, List.filterMap_map, List.filterMap_eq_nil_iff]
    exact fun _ _ => rfl
  rw [mockItems, functionNames_append, functionNames_append, functionNames_setOff, hargs, hlock]
  rfl

theorem typeNames_mockItems : typeNames (mockItems interface methods) =
    "Responder" ::
      (methods.map (fun m => plainName m.pascal ++ "Args") ++ [plainName interface ++ "Mock"]) := by
  have hresponder : plainName "Responder" = "Responder" := by decide
  have hmock : plainName (interface ++ "Mock") = plainName interface ++ "Mock" :=
    plainName_append (by decide)
  have hargs : typeNames (methods.map argsItem) =
      methods.map fun m => plainName m.pascal ++ "Args" := by
    rw [typeNames, List.filterMap_map, ← List.filterMap_eq_map]
    refine List.filterMap_congr fun m _ => congrArg some ?_
    exact plainName_append (by decide)
  rw [mockItems, typeNames_append, typeNames_append, typeNames_setOff, hargs, ← hmock]
  exact congrArg (List.cons · _) hresponder

theorem itemsApart_mock_iff :
    ItemsApart (mockItems interface methods) ↔ (methods.map (plainName ·.pascal)).Nodup := by
  rw [itemsApart_iff, functionNames_mockItems, typeNames_mockItems,
    and_iff_right (List.nodup_singleton _), List.nodup_cons, List.nodup_append,
    nodup_map_append_iff]
  constructor
  · exact fun h => h.2.1
  · intro h
    refine ⟨?_, h, List.nodup_singleton _, ?_⟩
    · simp only [List.mem_append, List.mem_map, List.mem_singleton, not_or, not_exists, not_and]
      exact ⟨fun m _ => append_ne (by decide), (append_ne (by decide)).symm⟩
    · rintro _ ha _ hb
      obtain ⟨m, -, rfl⟩ := List.mem_map.1 ha
      rw [List.mem_singleton.1 hb]
      exact append_ne_append (by decide) (by decide)

theorem typeNames_instrumentingItems : typeNames (instrumentingItems interface methods) =
    [plainName interface ++ "Metrics", "MethodCounters", plainName interface ++ "Counters",
      plainName interface ++ "Instrumenting"] := by
  have hplain : plainName "MethodCounters" = "MethodCounters" := by decide
  have htypes : typeNames (instrumentingItems interface methods) =
      [plainName (interface ++ "Metrics"), plainName "MethodCounters",
        plainName (interface ++ "Counters"), plainName (interface ++ "Instrumenting")] := rfl
  rw [htypes, hplain, plainName_append (by decide), plainName_append (by decide),
    plainName_append (by decide)]

theorem itemsApart_instrumenting_iff :
    ItemsApart (instrumentingItems interface methods) ↔ plainName interface ≠ "Method" := by
  have hfunctions : functionNames (instrumentingItems interface methods) = [] := rfl
  have hcounters : "MethodCounters" = "Method" ++ "Counters" := by decide
  have hmethod : plainName interface ++ "Counters" = "MethodCounters" ↔
      plainName interface = "Method" := by
    rw [hcounters]
    exact String.append_left_inj _
  have hne : ∀ s t : String, s ≠ t → plainName interface ++ s ≠ plainName interface ++ t :=
    fun s t h heq => h ((String.append_right_inj _).1 heq)
  have hmetrics : plainName interface ++ "Metrics" ≠ "MethodCounters" := append_ne (by decide)
  have hinstrumenting : plainName interface ++ "Instrumenting" ≠ "MethodCounters" :=
    append_ne (by decide)
  rw [itemsApart_iff, hfunctions, typeNames_instrumentingItems, and_iff_right List.nodup_nil]
  simp only [List.nodup_cons, List.mem_cons, List.not_mem_nil, or_false, not_or]
  constructor
  · exact fun h heq => h.2.1.1 (hmethod.2 heq).symm
  · exact fun h => ⟨⟨hmetrics, hne _ _ (by decide), hne _ _ (by decide)⟩,
      ⟨fun heq => h (hmethod.1 heq.symm), hinstrumenting.symm⟩, hne _ _ (by decide), not_false,
      List.nodup_nil⟩

end Wrappers

/-! ## Built services -/

/-- The methods have different names as parts of type names. -/
def TypeNamesApart (methods : List MethodSpec) : Prop :=
  (methods.map fun m => plainName (pascalCase m.name)).Nodup

instance (methods : List MethodSpec) : Decidable (TypeNamesApart methods) :=
  inferInstanceAs (Decidable (List.Nodup _))

namespace ServiceSpec

variable (s : ServiceSpec)

/-- The methods whose requests are JSON objects. -/
def objectMethods : List MethodSpec :=
  s.methods.filter fun m => m.hasJsonBody && !(m.paramsFrom .body).isEmpty

/-- The methods whose responses have fields with JSON names of their own. -/
def taggedMethods : List MethodSpec := s.methods.filter (! ·.responseJsonTags.isEmpty)

end ServiceSpec

/-- What the files of one kind need of the names in a service. -/
def Processor.KeepsItemsApart : Processor → ServiceSpec → Prop
  | .httpServer, s => HandlersApart (s.errorType.getD "") (s.methods.map (·.name)) ∧
      TypeNamesApart s.objectMethods ∧ TypeNamesApart s.taggedMethods
  | .httpClient, s | .httpsClient, s =>
      TypeNamesApart s.objectMethods ∧ TypeNamesApart s.taggedMethods
  | .metrics, s => plainName s.interfaceName ≠ "Method"
  | .mock, s => TypeNamesApart s.methods
  | .httpErrors, _ | .log, _ | .swagger, _ => True

instance (kind : Processor) (s : ServiceSpec) : Decidable (kind.KeepsItemsApart s) :=
  match kind with
  | .httpServer => inferInstanceAs (Decidable (_ ∧ _ ∧ _))
  | .httpClient | .httpsClient => inferInstanceAs (Decidable (_ ∧ _))
  | .metrics => inferInstanceAs (Decidable (_ ≠ _))
  | .mock => inferInstanceAs (Decidable (TypeNamesApart _))
  | .httpErrors | .log | .swagger => inferInstanceAs (Decidable True)

section Built

variable {s : ServiceSpec}

/-- A response with JSON names of fields has the fields of a known struct. -/
theorem isEmpty_wireFieldsOf {index : TypeIndex} {interface : String} {m : MethodDecl}
    {d : MethodDirectives} {spec : MethodSpec} (h : MethodSpec.Built index interface m d spec) :
    (wireFieldsOf spec).isEmpty = spec.responseJsonTags.isEmpty := by
  have htags : spec.responseJsonTags = d.responseJsonTags := by rw [h.eq]
  have hfields : spec.responseFields = m.okType.bind (structFields? index) := by rw [h.eq]
  unfold wireFieldsOf
  cases hempty : spec.responseJsonTags.isEmpty with
  | true => rfl
  | false =>
    have hkeys : d.responseJsonTags.keys ≠ [] := by
      rw [Ne, ← Table.isEmpty_iff, ← htags, hempty]
      exact Bool.false_ne_true
    obtain ⟨key, hkey⟩ := List.exists_mem_of_ne_nil _ hkeys
    have hmem := fields_of_checkResponse h.response key hkey
    obtain ⟨f, hf, -⟩ := List.mem_map.1 hmem
    rw [hfields, if_neg (by simp), List.isEmpty_map]
    exact List.isEmpty_eq_false_iff_exists_mem.2 ⟨f, hf⟩

theorem filter_map_of {α β : Type} {f : α → β} {p : β → Bool} {q : α → Bool} {l : List α}
    (h : ∀ x ∈ l, p (f x) = q x) : (l.map f).filter p = (l.filter q).map f := by
  rw [List.filter_map]
  exact congrArg (List.map f) (List.filter_congr h)

theorem map_pascal (f : String → String) (errorType : Option String) (methods : List MethodSpec) :
    (methods.map (MethodView.of errorType)).map (fun v => f v.pascal) =
      methods.map fun m => f (pascalCase m.name) := by
  have hpascal : ∀ m, (MethodView.of errorType m).pascal = pascalCase m.name := fun _ => rfl
  rw [List.map_map]
  exact List.map_congr_left fun m _ => congrArg f (hpascal m)

theorem structsApart_views_iff {index : TypeIndex} {marker : String} {decl : InterfaceDecl}
    (h : ServiceSpec.build index marker decl = .ok (some s)) :
    StructsApart s.views ↔ TypeNamesApart s.objectMethods ∧ TypeNamesApart s.taggedMethods := by
  have hobjects : ∀ m ∈ s.methods, (!(MethodView.of s.errorType m).bodyParams.isEmpty) =
      (m.hasJsonBody && !(m.paramsFrom .body).isEmpty) := by
    intro m _
    cases hjson : m.hasJsonBody <;> simp [MethodView.of, hjson]
  have htagged : ∀ m ∈ s.methods, (!(MethodView.of s.errorType m).wireFields.isEmpty) =
      !m.responseJsonTags.isEmpty := by
    intro m hm
    obtain ⟨_, -, hmethods⟩ := (ServiceSpec.built_of_build h).methods
    obtain ⟨_, -, _, -, hbuilt⟩ := exists_of_mem_right (buildMethods_ok hmethods) hm
    exact congrArg not (isEmpty_wireFieldsOf hbuilt)
  rw [StructsApart, ServiceSpec.views,
    filter_map_of (p := fun v : MethodView => !v.bodyParams.isEmpty) hobjects,
    filter_map_of (p := fun v : MethodView => !v.wireFields.isEmpty) htagged, map_pascal plainName,
    map_pascal plainName]
  rfl

theorem itemsApart_moduleFile (path : List String) (doc : String) (modules : List ModuleLine)
    (exports : List String) : ItemsApart (moduleFile path doc modules exports).items := by
  have hfunctions : functionNames (moduleFile path doc modules exports).items = [] := by
    rw [moduleFile, functionNames_append, functionNames_setOff, functionNames, functionNames,
      List.filterMap_map, List.filterMap_map, List.append_eq_nil_iff]
    exact ⟨List.filterMap_eq_nil_iff.2 fun _ _ => rfl, List.filterMap_eq_nil_iff.2 fun _ _ => rfl⟩
  have htypes : typeNames (moduleFile path doc modules exports).items = [] := by
    rw [moduleFile, typeNames_append, typeNames_setOff, typeNames, typeNames,
      List.filterMap_map, List.filterMap_map, List.append_eq_nil_iff]
    exact ⟨List.filterMap_eq_nil_iff.2 fun _ _ => rfl, List.filterMap_eq_nil_iff.2 fun _ _ => rfl⟩
  rw [itemsApart_iff, hfunctions, htypes]
  exact ⟨List.nodup_nil, List.nodup_nil⟩

theorem itemsApart_decodeErrorItems (errorType : String) (mappings : List ErrorMapping) :
    ItemsApart (decodeErrorItems errorType mappings) := by
  unfold decodeErrorItems decodeItems
  split
  · exact ⟨List.nodup_nil, List.nodup_singleton _⟩
  · exact ⟨List.nodup_singleton _, List.nodup_singleton _⟩

theorem itemsApart_files_iff {index : TypeIndex} {marker : String} {decl : InterfaceDecl}
    (h : ServiceSpec.build index marker decl = .ok (some s))
    (hnames : (s.methods.map (·.name)).Nodup) (kind : Processor) :
    (∀ file ∈ kind.files s, ItemsApart file.items) ↔ kind.KeepsItemsApart s := by
  have hviews : s.views.map (·.name) = s.methods.map (·.name) := by
    rw [ServiceSpec.views, List.map_map]
    rfl
  have hnames : (s.views.map (·.name)).Nodup := hviews ▸ hnames
  cases kind with
  | httpServer =>
    have hrouting : ItemsApart (routingItems s.interfaceName s.views) :=
      ⟨List.nodup_singleton _, List.nodup_singleton _⟩
    simp only [Processor.files, serverFiles, List.forall_mem_cons]
    rw [and_iff_right (itemsApart_moduleFile _ _ _ _), and_iff_right hrouting,
      itemsApart_serverTransport_iff hnames, structsApart_views_iff h, hviews,
      and_iff_left (List.forall_mem_nil _)]
    rfl
  | httpClient | httpsClient =>
    have hcalls : ∀ scheme, ItemsApart
        (clientItems s.interfaceName scheme (s.errorType.getD "") s.views) :=
      fun scheme => ⟨List.nodup_nil, List.nodup_singleton _⟩
    simp only [Processor.files, clientFiles, List.forall_mem_cons]
    rw [and_iff_right (itemsApart_moduleFile _ _ _ _), and_iff_right (hcalls _),
      itemsApart_clientTransport_iff hnames, structsApart_views_iff h,
      and_iff_left (List.forall_mem_nil _)]
    rfl
  | httpErrors =>
    have hencode : ∀ mappings, ItemsApart
        (encodeErrorItems (s.errorType.getD "") mappings) :=
      fun mappings => ⟨List.nodup_singleton _, List.nodup_nil⟩
    refine iff_of_true ?_ trivial
    simp only [Processor.files, errorFiles, List.forall_mem_cons]
    exact ⟨itemsApart_moduleFile _ _ _ _, hencode _, itemsApart_decodeErrorItems _ _,
      List.forall_mem_nil _⟩
  | metrics => exact List.forall_mem_singleton.trans itemsApart_instrumenting_iff
  | log =>
    exact iff_of_true (List.forall_mem_singleton.2 ⟨List.nodup_nil, List.nodup_singleton _⟩) trivial
  | mock =>
    refine List.forall_mem_singleton.trans (itemsApart_mock_iff.trans ?_)
    rw [ServiceSpec.views, map_pascal plainName]
    rfl
  | swagger => exact iff_of_true (List.forall_mem_nil _) trivial

end Built

/-- **Which items are apart.** In every file of a built service whose methods have different names,
the items record what their code defines, and no two functions and no two types have one name
exactly if the names in the service keep the items of each selected kind apart. -/
theorem items_apart_iff {index : TypeIndex} {marker : String} {decl : InterfaceDecl}
    {s : ServiceSpec} (h : ServiceSpec.build index marker decl = .ok (some s))
    (hnames : (s.methods.map (·.name)).Nodup) :
    (∀ file ∈ s.sources, ∀ item ∈ file.items, item.Records) ∧
      ((∀ file ∈ s.sources, ItemsApart file.items) ↔
        ∀ kind ∈ s.processors, kind.KeepsItemsApart s) := by
  refine ⟨records_sources s, ?_⟩
  rw [s.forall_mem_sources_iff]
  · exact forall₂_congr fun kind _ => itemsApart_files_iff h hnames kind
  · exact itemsApart_moduleFile _ _ _ _

/-- A marked method and the types that its signature mentions. -/
def markedMethod (name : String) (params : List ParamDecl) (mentioned : List String) :
    MethodDecl where
  name
  docs := ["@gtg method PUT"]
  receiver := .ref
  params
  unsupportedParam := none
  isGeneric := false
  isAsync := false
  hasDefault := false
  returnType := "Result<String, Failure>"
  okType := some "String"
  errType := some "Failure"
  returnsResult := true
  referencedTypes := .ofNames mentioned

/-- A trait that asks for all artifacts. -/
def ordersTrait (methods : List MethodDecl) : InterfaceDecl where
  name := "Orders"
  docs := []
  methods
  modulePath := "crate"
  sourcePath := ⟨"src/lib.rs"⟩
  isGeneric := false

/-- Such a trait whose methods take one text and have the given names. -/
def textTrait (names : List String) : InterfaceDecl :=
  ordersTrait (names.map fun name => markedMethod name [⟨"id", "String"⟩] [])

theorem items_apart_orders :
    ∃ s, ServiceSpec.build {} "@gtg" (textTrait ["place", "place_all", "finish_all"]) =
        .ok (some s) ∧
      s.processors = Processor.defaults ∧
      s.methods.map (·.name) = ["place", "place_all", "finish_all"] ∧
      ∀ file ∈ s.sources, ItemsApart file.items := by
  have hbuild : (ServiceSpec.build {} "@gtg"
      (textTrait ["place", "place_all", "finish_all"])).toOption.join.any (fun s =>
        s.processors = Processor.defaults ∧
        s.methods.map (·.name) = ["place", "place_all", "finish_all"] ∧
        (s.methods.map (·.name)).Nodup ∧ ∀ kind ∈ s.processors, kind.KeepsItemsApart s) = true := by
    decide +kernel
  obtain ⟨s, hs, hkinds, hmethods, hnames, hapart⟩ := exists_ok_of_any hbuild
  exact ⟨s, hs, hkinds, hmethods, (items_apart_iff hs hnames).2.2 hapart⟩

/-- **Not all items are apart.** A trait is built whose methods have different names, one of them
the name of a function that all servers have, and two of them one name as part of type names. -/
theorem items_clash_finish :
    ∃ s, ServiceSpec.build {} "@gtg" (textTrait ["finish", "get_item", "getItem"]) =
        .ok (some s) ∧
      s.methods.map (·.name) = ["finish", "get_item", "getItem"] ∧
      (∃ file ∈ s.sources, file.path = ["httpserver", "transport.rs"] ∧
        (file.items.filter (·.defines = .function "finish")).flatMap (·.code.take 2) =
          ["/// Decode a `finish` request, call the service and encode the outcome",
            "pub(super) fn finish<S: Orders>(",
            "fn finish(builder: http::response::Builder, body: Vec<u8>) -> Response<Vec<u8>> \x7b",
            "    builder.body(body).unwrap_or_else(|_| \x7b"] ∧
        ¬ItemsApart file.items) ∧
      ∃ file ∈ s.sources, file.path = ["mock.rs"] ∧
        (file.items.filter (·.defines = .type "GetItemArgs")).flatMap (·.code) =
          ["/// Arguments recorded for one `get_item` call", "pub type GetItemArgs = (String,);",
            "/// Arguments recorded for one `getItem` call", "pub type GetItemArgs = (String,);"] ∧
        ¬ItemsApart file.items := by
  refine exists_ok_of_any ?_
  decide +kernel

end TransportGen
