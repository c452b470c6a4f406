import TransportGen.Proofs.Directive.Method
import TransportGen.Proofs.Service.Parameters
import TransportGen.Proofs.Service.Statuses

/-!
# Items for error variants

An item of an `errors` directive names a variant, by itself or below the error type, and gives it a
status. Three tables stand behind each other on its way into a service: a method keeps the last item
of each spelling, then compares those that name one variant, and the methods are compared at last.
The first step compares nothing. So items that are left after it never clash in a built service
(`exists_failure_of_clash`), and all items agree exactly if those of one spelling do in each method
(`oneStatus_iff`).
-/

namespace TransportGen

/-! ## Items -/

/-- The items of the `errors` directives of a method, in their order. -/
def MethodDecl.errorItems (marker : String) (m : MethodDecl) : List (String × Nat) :=
  (MethodDirectives.errorsPart.valuesIn marker m.docs).toOption.getD []

/-- The last item of each spelling in the `errors` directives of a method. -/
def MethodDecl.lastErrorItems (marker : String) (m : MethodDecl) : List (String × Nat) :=
  (Table.ofList (m.errorItems marker)).entries

namespace InterfaceDecl

/-- The items of all marked methods. -/
def errorItems (marker : String) (decl : InterfaceDecl) : List (String × Nat) :=
  (decl.marked marker).flatMap (·.errorItems marker)

/-- The items of all marked methods that no later one of their spelling replaces. -/
def lastErrorItems (marker : String) (decl : InterfaceDecl) : List (String × Nat) :=
  (decl.marked marker).flatMap (·.lastErrorItems marker)

end InterfaceDecl

/-- The variant that an item names, and its status. -/
def variantStatus (item : String × Nat) : String × Nat := (lastSegment item.1, item.2)

/-- Items that name one variant give it one status. -/
def OneStatus (items : List (String × Nat)) : Prop := Consistent (items.map variantStatus)

instance (items : List (String × Nat)) : Decidable (OneStatus items) :=
  inferInstanceAs (Decidable (Consistent (items.map variantStatus)))

theorem OneStatus.subset {items others : List (String × Nat)} (h : OneStatus items)
    (hsub : others ⊆ items) : OneStatus others :=
  Consistent.subset h (List.map_subset variantStatus hsub)

/-- Where items of one spelling agree, each of them is the last one. -/
theorem MethodDecl.errorItems_subset {marker : String} {m : MethodDecl}
    (h : Consistent (m.errorItems marker)) : m.errorItems marker ⊆ m.lastErrorItems marker := by
  intro item hitem
  have hget : (Table.ofList (m.errorItems marker)).get? item.1 = some item.2 :=
    (Table.get?_ofList_eq_some_iff h).2 hitem
  exact Table.get?_eq_some_iff.1 hget

/-! ## Built services -/

section Built

variable {index : TypeIndex} {marker : String} {decl : InterfaceDecl} {s : ServiceSpec}

/-- What a method maps are its last items. -/
theorem MethodDecl.HasContract.errorStatus {interface : String} {m : MethodDecl} {spec : MethodSpec}
    (h : m.HasContract index marker interface spec) :
    MethodDirectives.errorsPart.valuesIn marker m.docs = .ok (m.errorItems marker) ∧
      ∀ variant status, spec.errorStatus.get? variant = some status ↔
        (variant, status) ∈ (m.lastErrorItems marker).map variantStatus := by
  obtain ⟨d, hparse, hbuilt⟩ := h
  obtain ⟨items, hitems, herrors⟩ := MethodDirectives.parse_errors hparse
  have hown : m.errorItems marker = items := by
    rw [errorItems, hitems]
    rfl
  refine ⟨hown ▸ hitems, fun variant status => ?_⟩
  obtain ⟨-, hget⟩ := errorStatusTable_ok hbuilt.errors
  have hlast : m.lastErrorItems marker = d.errors.entries := by
    rw [lastErrorItems, hown, herrors]
  rw [hget, hlast, List.mem_map]
  simp only [variantStatus, Prod.mk.injEq]

/-- **What a service maps.** Its statuses are those of the last items of its methods. -/
theorem ServiceSpec.Built.get?_errorStatuses_eq_some_iff_item (h : Built index marker decl s)
    {variant : String} {status : Nat} :
    s.errorStatuses.get? variant = some status ↔
      (variant, status) ∈ (decl.lastErrorItems marker).map variantStatus := by
  obtain ⟨contract, hmethods, hcontracts⟩ := h.exists_contract
  rw [h.get?_errorStatuses_eq_some_iff, hmethods, InterfaceDecl.lastErrorItems, List.map_flatMap,
    List.mem_flatMap]
  constructor
  · rintro ⟨spec, hspec, hget⟩
    obtain ⟨m, hm, rfl⟩ := List.mem_map.1 hspec
    exact ⟨m, hm, ((hcontracts m hm).errorStatus.2 variant status).1 hget⟩
  · rintro ⟨m, hm, hitem⟩
    exact ⟨contract m, List.mem_map_of_mem hm,
      ((hcontracts m hm).errorStatus.2 variant status).2 hitem⟩

theorem ServiceSpec.Built.oneStatus_last (h : Built index marker decl s) :
    OneStatus (decl.lastErrorItems marker) := by
  rintro ⟨variant, a⟩ ha ⟨_, b⟩ hb rfl
  have hget := h.get?_errorStatuses_eq_some_iff_item.2 ha
  rw [h.get?_errorStatuses_eq_some_iff_item.2 hb] at hget
  exact (Option.some.inj hget).symm

/-- **Clashing items.** A trait whose last items give one variant two statuses is refused. -/
theorem exists_failure_of_clash (index : TypeIndex)
    (hclash : ¬OneStatus (decl.lastErrorItems marker)) :
    ∃ failure, ServiceSpec.build index marker decl = .error failure := by
  cases hbuild : ServiceSpec.build index marker decl with
  | error failure => exact ⟨failure, rfl⟩
  | ok outcome =>
    exfalso
    cases outcome with
    | none =>
      have hnone : decl.marked marker = [] := ServiceSpec.build_eq_none_iff.1 hbuild
      apply hclash
      rw [InterfaceDecl.lastErrorItems, hnone]
      intro a ha
      cases ha
    | some s => exact hclash (ServiceSpec.built_of_build hbuild).oneStatus_last

end Built

/-- Where items of one spelling agree in each method, no item is replaced. -/
theorem InterfaceDecl.errorItems_subset {marker : String} {decl : InterfaceDecl}
    (h : ∀ m ∈ decl.marked marker, Consistent (m.errorItems marker)) :
    decl.errorItems marker ⊆ decl.lastErrorItems marker := by
  intro item hitem
  obtain ⟨m, hm, hown⟩ := List.mem_flatMap.1 hitem
  exact List.mem_flatMap.2 ⟨m, hm, MethodDecl.errorItems_subset (h m hm) hown⟩

/-- **One status for a variant.** In a built service all items that name a variant have one status,
the one that the service maps it to, exactly if in each method the items of one spelling agree. Then
items that clash are refused. -/
theorem oneStatus_iff (index : TypeIndex) (marker : String) (decl : InterfaceDecl) :
    (∀ s, ServiceSpec.build index marker decl = .ok (some s) →
      (∀ m ∈ decl.marked marker,
        MethodDirectives.errorsPart.valuesIn marker m.docs = .ok (m.errorItems marker)) ∧
      (OneStatus (decl.errorItems marker) ∧
          (∀ item ∈ decl.errorItems marker,
            s.errorStatuses.get? (lastSegment item.1) = some item.2) ↔
        ∀ m ∈ decl.marked marker, Consistent (m.errorItems marker))) ∧
    ((∀ m ∈ decl.marked marker, Consistent (m.errorItems marker)) →
      ¬OneStatus (decl.errorItems marker) →
      ∃ failure, ServiceSpec.build index marker decl = .error failure) := by
  constructor
  · intro s hbuild
    have hbuilt := ServiceSpec.built_of_build hbuild
    obtain ⟨contract, -, hcontracts⟩ := hbuilt.exists_contract
    refine ⟨fun m hm => (hcontracts m hm).errorStatus.1, ?_⟩
    constructor
    · rintro ⟨hone, -⟩ m hm a ha b hb hname
      have hmem : ∀ item ∈ m.errorItems marker,
          variantStatus item ∈ (decl.errorItems marker).map variantStatus := by
        intro item hitem
        exact List.mem_map_of_mem (List.mem_flatMap.2 ⟨m, hm, hitem⟩)
      exact hone (variantStatus a) (hmem a ha) (variantStatus b) (hmem b hb)
        (congrArg lastSegment hname)
    · intro hsame
      have hsub := InterfaceDecl.errorItems_subset hsame
      refine ⟨hbuilt.oneStatus_last.subset hsub, ?_⟩
      intro item hitem
      exact hbuilt.get?_errorStatuses_eq_some_iff_item.2 (List.mem_map_of_mem (hsub hitem))
  · intro hsame hclash
    apply exists_failure_of_clash index
    intro hlast
    exact hclash (hlast.subset (InterfaceDecl.errorItems_subset hsame))

/-- A trait with two methods that may fail, and an `errors` directive on each. -/
def archiveTrait (first last : String) : InterfaceDecl :=
  { searchTrait with
    methods := searchTrait.methods.flatMap fun m =>
      [ { m with
          name := "list"
          docs := ["@gtg errors " ++ first]
          params := [] },
        { m with
          name := "clear"
          docs := ["@gtg errors " ++ last]
          params := [] } ] }

/-- Items in several spellings and methods that give a variant one status, and items in two
spellings that do not. -/
theorem oneStatus_archive :
    ∃ s, ServiceSpec.build {} "@gtg"
        (archiveTrait "Gone=404, Failure::Gone=404" "Gone=404, Shut=403") =
          .ok (some s) ∧
      InterfaceDecl.errorItems "@gtg"
        (archiveTrait "Gone=404, Failure::Gone=404" "Gone=404, Shut=403") =
          [("Gone", 404), ("Failure::Gone", 404), ("Gone", 404), ("Shut", 403)] ∧
      s.errorStatuses.get? "Gone" = some 404 ∧ s.errorStatuses.get? "Shut" = some 403 ∧
      ∃ failure, ServiceSpec.build {} "@gtg"
        (archiveTrait "Gone=404, Failure::Gone=410" "Shut=403") = .error failure := by
  have hbuild : (ServiceSpec.build {} "@gtg" (archiveTrait "Gone=404, Failure::Gone=404"
      "Gone=404, Shut=403")).toOption.join.any (fun s => s.methods.length = 2) = true := by
    decide +kernel
  obtain ⟨s, hs, -⟩ := exists_ok_of_any hbuild
  have hitems : InterfaceDecl.errorItems "@gtg"
      (archiveTrait "Gone=404, Failure::Gone=404" "Gone=404, Shut=403") =
        [("Gone", 404), ("Failure::Gone", 404), ("Gone", 404), ("Shut", 403)] := by
    decide +kernel
  have hsame : ∀ m ∈ InterfaceDecl.marked "@gtg"
      (archiveTrait "Gone=404, Failure::Gone=404" "Gone=404, Shut=403"),
      Consistent (m.errorItems "@gtg") := by
    decide +kernel
  have hother : ∀ m ∈ InterfaceDecl.marked "@gtg"
      (archiveTrait "Gone=404, Failure::Gone=410" "Shut=403"),
      Consistent (m.errorItems "@gtg") := by
    decide +kernel
  have hclash : ¬OneStatus (InterfaceDecl.errorItems "@gtg"
      (archiveTrait "Gone=404, Failure::Gone=410" "Shut=403")) := by
    decide +kernel
  obtain ⟨-, hiff⟩ := (oneStatus_iff {} "@gtg" _).1 s hs
  obtain ⟨-, hget⟩ := hiff.2 hsame
  rw [hitems] at hget
  have hfailure := (oneStatus_iff {} "@gtg" _).2 hother hclash
  exact ⟨s, hs, hitems, hget ("Gone", 404) (by simp), hget ("Shut", 403) (by simp), hfailure⟩

/-- **Not every clash is refused.** Of two items of one spelling in a method the last one wins. -/
theorem clash_built_archive :
    ∃ s, ServiceSpec.build {} "@gtg" (archiveTrait "Gone=404, Gone=410" "Shut=403") =
        .ok (some s) ∧
      InterfaceDecl.errorItems "@gtg" (archiveTrait "Gone=404, Gone=410" "Shut=403") =
        [("Gone", 404), ("Gone", 410), ("Shut", 403)] ∧
      ¬OneStatus (InterfaceDecl.errorItems "@gtg"
        (archiveTrait "Gone=404, Gone=410" "Shut=403")) ∧
      s.errorStatuses.get? "Gone" = some 410 := by
  have hbuild : (ServiceSpec.build {} "@gtg"
      (archiveTrait "Gone=404, Gone=410" "Shut=403")).toOption.join.any (fun s =>
        s.errorStatuses.get? "Gone" = some 410) = true := by
    decide +kernel
  obtain ⟨s, hs, hget⟩ := exists_ok_of_any hbuild
  have hitems : InterfaceDecl.errorItems "@gtg"
      (archiveTrait "Gone=404, Gone=410" "Shut=403") =
        [("Gone", 404), ("Gone", 410), ("Shut", 403)] := by
    decide +kernel
  have hclash : ¬OneStatus [("Gone", 404), ("Gone", 410), ("Shut", 403)] := by
    decide +kernel
  exact ⟨s, hs, hitems, hitems ▸ hclash, hget⟩

end TransportGen
