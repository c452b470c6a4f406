import Mathlib.Data.List.Forall2
import TransportGen.Proofs.Service.Parameters
import TransportGen.Proofs.Service.Statuses

/-!
# The order of methods

Methods are read and built one by one (`buildMethods_ok`), the checks across methods do not look at
an order (`MethodsAgree.perm`), and what is imported depends on the set of mentioned types alone
(`importsOf_perm`). So a trait with its methods in another order is built exactly if the trait is:
`SameOutcome` says how the two outcomes belong together, and `build_perm` that they always do. What
the order does decide is which failure is reported and which title or version is the last one.
-/

namespace TransportGen

/-! ## Imports -/

theorem NameSet.ofNames_perm {names others : List String} (h : names.Perm others) :
    NameSet.ofNames names = NameSet.ofNames others := by
  refine h.foldl_eq' ?_ ∅
  intro a _ b _ set
  by_cases heq : a = b
  · rw [heq]
  · exact Table.insert_comm set heq () ()

/-- The order of the methods does not matter for what a service imports. -/
theorem importsOf_perm (index : TypeIndex) (decl : InterfaceDecl) {methods : List MethodDecl}
    (hmethods : methods.Perm decl.methods) {specs others : List MethodSpec}
    (hspecs : others.Perm specs) :
    importsOf index { decl with methods } others = importsOf index decl specs := by
  have hnames : mentionedTypes { decl with methods } others = mentionedTypes decl specs := by
    apply NameSet.ofNames_perm
    have hmentions : (fun m : MethodDecl => others.any (·.name = m.name)) =
        fun m => specs.any (·.name = m.name) := funext fun m => hspecs.any_eq
    have hfields := (hspecs.filter fun m => !m.responseJsonTags.isEmpty).flatMap_right
      fun m => m.responseFields.getD []
    apply List.Perm.append
    · rw [hmentions]
      exact (hmethods.filter _).flatMap_right _
    · exact hfields.flatMap_right _
  unfold importsOf
  rw [hnames]
  rfl

/-! ## Two orders of the methods of a trait -/

theorem marked_perm (marker : String) (decl : InterfaceDecl) {methods : List MethodDecl}
    (hperm : methods.Perm decl.methods) :
    (InterfaceDecl.marked marker { decl with methods }).Perm (decl.marked marker) :=
  hperm.filter _

/-- Services of two traits that differ in the order of their methods alone. -/
structure Reordered (marker : String) (decl decl' : InterfaceDecl) (s s' : ServiceSpec) : Prop where
  /-- A method has one contract, whichever of the traits it is read from. -/
  methods : ∃ contract : MethodDecl → MethodSpec,
    s.methods = (decl.marked marker).map contract ∧ s'.methods = (decl'.marked marker).map contract
  /-- All else but the document directives is the same. -/
  eq : s' = { s with methods := s'.methods, document := s'.document }
  errorStatuses : s'.errorStatuses = s.errorStatuses

/-- The outcomes of building two traits that differ in the order of their methods alone. -/
inductive SameOutcome (marker : String) (decl decl' : InterfaceDecl) :
    Except Failure (Option ServiceSpec) → Except Failure (Option ServiceSpec) → Prop
  | failed (failure failure' : Failure) :
    SameOutcome marker decl decl' (.error failure) (.error failure')
  | unmarked : SameOutcome marker decl decl' (.ok none) (.ok none)
  | built {s s' : ServiceSpec} (h : Reordered marker decl decl' s s') :
    SameOutcome marker decl decl' (.ok (some s)) (.ok (some s'))

section Orders

variable {index : TypeIndex} {marker : String} {decl : InterfaceDecl} {methods : List MethodDecl}
  {s s' : ServiceSpec}

/-- What a service maps does not depend on the order of its methods. -/
theorem errorStatuses_perm {decl' : InterfaceDecl} (h : ServiceSpec.Built index marker decl s)
    (h' : ServiceSpec.Built index marker decl' s') (hperm : s'.methods.Perm s.methods) :
    s'.errorStatuses = s.errorStatuses := by
  apply Table.ext_get?
  intro variant
  apply Option.ext
  intro status
  rw [h.get?_errorStatuses_eq_some_iff, h'.get?_errorStatuses_eq_some_iff]
  simp only [hperm.mem_iff]

/-- **One service for every order.** If a trait is built, so is the trait with its methods in
another order, into the same contracts. -/
theorem ServiceSpec.Built.exists_reordered (h : Built index marker decl s)
    (hperm : methods.Perm decl.methods) :
    ∃ s', Built index marker { decl with methods } s' ∧
      Reordered marker decl { decl with methods } s s' := by
  obtain ⟨contract, hmethods, hcontracts⟩ := h.exists_contract
  have hmarked := marked_perm marker decl hperm
  have hspecs : ((InterfaceDecl.marked marker { decl with methods }).map contract).Perm s.methods :=
    hmethods ▸ hmarked.map contract
  obtain ⟨document, hdocument, -⟩ := h.methods
  have hall : ∀ m ∈ InterfaceDecl.marked marker { decl with methods },
      m.HasContract index marker decl.name (contract m) := by
    intro m hm
    exact hcontracts m (hmarked.mem_iff.1 hm)
  have hforall : List.Forall₂ (MethodDecl.HasContract index marker decl.name)
      (InterfaceDecl.marked marker { decl with methods })
      ((InterfaceDecl.marked marker { decl with methods }).map contract) := by
    rw [List.forall₂_map_right_iff, List.forall₂_same]
    exact hall
  obtain ⟨final, hbuild⟩ := exists_buildMethods hforall document
  have hagree := (checkMethods_eq_ok_iff.1 h.errorType).perm hspecs
  have himports := importsOf_perm index decl hperm hspecs
  have hbuilt : Built index marker { decl with methods }
      { s with
        methods := (InterfaceDecl.marked marker { decl with methods }).map contract
        document := final } := by
    constructor
    case marked_ne_nil =>
      intro hnil
      rw [hnil] at hmarked
      exact h.marked_ne_nil hmarked.symm.eq_nil
    case not_generic => exact h.not_generic
    case hasDefault =>
      intro m hm hmark
      exact h.hasDefault m (hperm.mem_iff.1 hm) hmark
    case processors => exact h.processors
    case methods => exact ⟨document, hdocument, hbuild⟩
    case errorType => exact checkMethods_eq_ok_iff.2 hagree
    case eq =>
      rw [himports]
      conv_lhs => rw [h.eq]
      rfl
  exact ⟨_, hbuilt, ⟨contract, hmethods, rfl⟩, rfl, errorStatuses_perm h hbuilt hspecs⟩

/-- **Method order.** A trait with its methods in another order is built exactly if the trait is,
and is no service exactly if the trait is none. Built, it has the same contracts for its methods,
and all else but the document directives is the same. -/
theorem build_perm (index : TypeIndex) (marker : String) (decl : InterfaceDecl)
    {methods : List MethodDecl} (hperm : methods.Perm decl.methods) :
    SameOutcome marker decl { decl with methods } (ServiceSpec.build index marker decl)
      (ServiceSpec.build index marker { decl with methods }) := by
  cases hbuild : ServiceSpec.build index marker decl with
  | ok outcome =>
    cases outcome with
    | none =>
      have hnone : ServiceSpec.build index marker { decl with methods } = .ok none := by
        rw [ServiceSpec.build_eq_none_iff] at hbuild ⊢
        have hmarked := marked_perm marker decl hperm
        rw [hbuild] at hmarked
        exact hmarked.eq_nil
      rw [hnone]
      exact .unmarked
    | some s =>
      obtain ⟨s', hbuilt, hsame⟩ := (ServiceSpec.built_of_build hbuild).exists_reordered hperm
      rw [ServiceSpec.build_of_built hbuilt]
      exact .built hsame
  | error failure =>
    -- A success in the other order would be one in this order.
    cases hother : ServiceSpec.build index marker { decl with methods } with
    | error failure' => exact .failed failure failure'
    | ok outcome =>
      exfalso
      cases outcome with
      | none =>
        rw [ServiceSpec.build_eq_none_iff] at hother
        have hmarked := marked_perm marker decl hperm
        rw [hother] at hmarked
        have hnone : ServiceSpec.build index marker decl = .ok none :=
          ServiceSpec.build_eq_none_iff.2 hmarked.symm.eq_nil
        rw [hbuild] at hnone
        cases hnone
      | some s' =>
        obtain ⟨s, hbuilt, -⟩ := (ServiceSpec.built_of_build hother).exists_reordered hperm.symm
        have hsome := ServiceSpec.build_of_built hbuilt
        rw [hbuild] at hsome
        cases hsome

end Orders

/-- A trait with two titles, two methods that map a variant, and a method without a mark. -/
def shelfTrait : InterfaceDecl :=
  { searchTrait with
    methods := searchTrait.methods.flatMap fun m =>
      [ { m with
          name := "list"
          docs := ["@gtg method GET", "@gtg title Shelves", "@gtg errors Missing=404"]
          params := [] },
        { m with
          name := "store"
          docs := ["@gtg title Books", "@gtg errors Failure::Missing=404, Denied=403"] },
        { m with
          name := "close"
          docs := []
          hasDefault := true } ] }

/-- Backwards, the trait has another title and is the same service otherwise. -/
theorem build_perm_shelf :
    shelfTrait.methods.reverse.Perm shelfTrait.methods ∧ ∃ s s',
      ServiceSpec.build {} "@gtg" shelfTrait = .ok (some s) ∧
      ServiceSpec.build {} "@gtg" { shelfTrait with methods := shelfTrait.methods.reverse } =
        .ok (some s') ∧
      s.methods.map (·.name) = ["list", "store"] ∧ s'.methods.map (·.name) = ["store", "list"] ∧
      s.document.title = some "Books" ∧ s'.document.title = some "Shelves" ∧
      Reordered "@gtg" shelfTrait { shelfTrait with methods := shelfTrait.methods.reverse } s s' := by
  have hbuild : (ServiceSpec.build {} "@gtg" shelfTrait).toOption.join.any (fun s =>
      s.methods.map (·.name) = ["list", "store"] ∧ s.document.title = some "Books") = true := by
    decide +kernel
  have hother : (ServiceSpec.build {} "@gtg"
      { shelfTrait with methods := shelfTrait.methods.reverse }).toOption.join.any (fun s =>
        s.methods.map (·.name) = ["store", "list"] ∧ s.document.title = some "Shelves") = true := by
    decide +kernel
  obtain ⟨s, hs, hnames, htitle⟩ := exists_ok_of_any hbuild
  obtain ⟨s', hs', hnames', htitle'⟩ := exists_ok_of_any hother
  have hperm : shelfTrait.methods.reverse.Perm shelfTrait.methods := List.reverse_perm _
  have hsame := build_perm {} "@gtg" shelfTrait hperm
  rw [hs, hs'] at hsame
  cases hsame with
  | built hreordered =>
    exact ⟨hperm, s, s', hs, hs', hnames, hnames', htitle, htitle', hreordered⟩

end TransportGen
