import TransportGen.Proofs.Service.Build
import TransportGen.Proofs.Service.Checks

/-!
# The error statuses of a built service

Each item of an `errors` directive names a variant by its last segment (`variantOf_ok`), and a method
maps exactly the variants that its items name (`foldlM_mapError_ok`, `errorStatusTable_ok`). No two
methods map a variant to different statuses, so the statuses of a service are those of its methods
(`ServiceSpec.Built.get?_errorStatuses_eq_some_iff`).
-/

namespace TransportGen

/-! ## One method -/

theorem variantOf_ok {errType name variant : String} (h : variantOf errType name = .ok variant) :
    variant = lastSegment name := by
  unfold variantOf at h
  unfold lastSegment
  cases hsplit : Text.splitLast? "::".toList name.toList with
  | none =>
    rw [hsplit] at h
    exact (Except.ok.inj h).symm
  | some parts =>
    obtain ⟨owner, last⟩ := parts
    simp only [hsplit] at h
    split at h
    · cases h
    · exact (Except.ok.inj h).symm

/-- What an item has to be for a method to map it. -/
structure Mappable (variants : Option (List VariantDecl)) (item : String × Nat) : Prop where
  status : 400 ≤ item.2
  /-- The variant is one of the error type, where its variants are known. -/
  known : ∀ vs ∈ variants, ∃ v ∈ vs, v.name = lastSegment item.1

section Items

variable {variants : Option (List VariantDecl)} {errType : String}

theorem mapError_ok {mapped mapped' : Table String Nat} {item : String × Nat}
    (h : mapError variants errType mapped item = .ok mapped') :
    Mappable variants item ∧
      (∀ first, mapped.get? (lastSegment item.1) = some first → first = item.2) ∧
      mapped' = mapped.insert (lastSegment item.1) item.2 := by
  unfold mapError at h
  obtain ⟨variant, hvariant, h⟩ := bind_eq_ok.1 h
  obtain rfl := variantOf_ok hvariant
  obtain ⟨hstatus, h⟩ := check_bind_eq_ok.1 h
  obtain ⟨hknown, h⟩ := check_bind_eq_ok.1 h
  have hmappable : Mappable variants item := by
    refine ⟨Nat.le_of_not_lt hstatus, ?_⟩
    rintro vs rfl
    simpa using hknown
  split at h
  · rename_i first hfirst
    obtain ⟨hsame, h⟩ := check_bind_eq_ok.1 h
    refine ⟨hmappable, ?_, (Except.ok.inj h).symm⟩
    intro first' hfirst'
    rw [hfirst] at hfirst'
    rw [← Option.some.inj hfirst']
    exact Decidable.not_not.1 hsame
  · rename_i hnone
    refine ⟨hmappable, ?_, (Except.ok.inj h).symm⟩
    intro first hfirst
    exact absurd hfirst (hnone first)

/-- The statuses of a run are those that were there before and those of the items. -/
theorem foldlM_mapError_ok {items : List (String × Nat)} {mapped mapped' : Table String Nat}
    (h : items.foldlM (mapError variants errType) mapped = .ok mapped') :
    (∀ item ∈ items, Mappable variants item) ∧
      ∀ variant status, mapped'.get? variant = some status ↔
        mapped.get? variant = some status ∨
          ∃ item ∈ items, lastSegment item.1 = variant ∧ item.2 = status := by
  induction items generalizing mapped with
  | nil =>
    cases h
    simp
  | cons item rest ih =>
    rw [List.foldlM_cons] at h
    obtain ⟨middle, hitem, hrest⟩ := bind_eq_ok.1 h
    obtain ⟨hmappable, hfirst, rfl⟩ := mapError_ok hitem
    obtain ⟨hall, hget⟩ := ih hrest
    refine ⟨List.forall_mem_cons.2 ⟨hmappable, hall⟩, ?_⟩
    intro variant status
    rw [hget, Table.get?_insert]
    by_cases hvariant : variant = lastSegment item.1
    · subst hvariant
      have hbefore := hfirst status
      simp only [if_pos, Option.some.injEq, List.mem_cons, exists_eq_or_imp, true_and]
      constructor
      · rintro (hown | hlater)
        · exact Or.inr (Or.inl hown)
        · exact Or.inr (Or.inr hlater)
      · rintro (hmapped | hown | hlater)
        · exact Or.inl (hbefore hmapped).symm
        · exact Or.inl hown
        · exact Or.inr hlater
    · have hne : lastSegment item.1 ≠ variant := Ne.symm hvariant
      simp [hvariant, hne]

end Items

/-- **One method.** Its items may be mapped, and its statuses are theirs. -/
theorem errorStatusTable_ok {index : TypeIndex} {m : MethodDecl} {d : MethodDirectives}
    {statuses : Table String Nat} (h : errorStatusTable index m d = .ok statuses) :
    (∀ item ∈ d.errors.entries, ∃ type, m.errType = some type ∧
      Mappable (index.variants? (lastSegment type)) item) ∧
      ∀ variant status, statuses.get? variant = some status ↔
        ∃ item ∈ d.errors.entries, lastSegment item.1 = variant ∧ item.2 = status := by
  unfold errorStatusTable at h
  split at h
  · rename_i hempty
    cases h
    have hnil : d.errors.entries = [] := List.isEmpty_iff.1 hempty
    rw [hnil]
    refine ⟨by simp, ?_⟩
    intro variant status
    constructor
    · intro hget
      cases hget
    · simp
  · split at h
    · rename_i type htype _
      obtain ⟨hall, hget⟩ := foldlM_mapError_ok h
      refine ⟨fun item hitem => ⟨type, htype, hall item hitem⟩, ?_⟩
      intro variant status
      rw [hget]
      constructor
      · rintro (hnone | hitem)
        · cases hnone
        · exact hitem
      · exact Or.inr
    · cases h

/-! ## The service -/

theorem ServiceSpec.errorStatuses_eq (s : ServiceSpec) :
    s.errorStatuses = Table.ofList (s.methods.flatMap (·.errorStatus.entries)) :=
  List.foldl_flatMap.symm

section Built

variable {index : TypeIndex} {marker : String} {decl : InterfaceDecl} {s : ServiceSpec}

/-- The statuses of a service are those that its methods give. -/
theorem ServiceSpec.Built.get?_errorStatuses_eq_some_iff (h : Built index marker decl s)
    {variant : String} {status : Nat} :
    s.errorStatuses.get? variant = some status ↔
      ∃ m ∈ s.methods, m.errorStatus.get? variant = some status := by
  have hagree := (checkMethods_eq_ok_iff.1 h.errorType).statuses
  rw [s.errorStatuses_eq, Table.get?_ofList_eq_some_iff hagree, List.mem_flatMap]
  simp only [Table.get?_eq_some_iff]

/-- A status that a method maps a variant to is that of an item for a variant of its error type. -/
theorem ServiceSpec.Built.exists_mappable (h : Built index marker decl s) {m : MethodSpec}
    (hm : m ∈ s.methods) {variant : String} {status : Nat}
    (hstatus : m.errorStatus.get? variant = some status) :
    ∃ item type, lastSegment item.1 = variant ∧ item.2 = status ∧ m.errType = some type ∧
      Mappable (index.variants? (lastSegment type)) item := by
  obtain ⟨_, -, hmethods⟩ := h.methods
  obtain ⟨m', -, d, -, hbuilt⟩ := exists_of_mem_right (buildMethods_ok hmethods) hm
  obtain ⟨hitems, hget⟩ := errorStatusTable_ok hbuilt.errors
  obtain ⟨item, hitem, hvariant, hvalue⟩ := (hget variant status).1 hstatus
  obtain ⟨type, htype, hmappable⟩ := hitems item hitem
  have herrType : m.errType = some type := by rw [hbuilt.eq, htype]
  exact ⟨item, type, hvariant, hvalue, herrType, hmappable⟩

/-- Where the error enumeration of a service is known, its methods map variants of it only. -/
theorem ServiceSpec.Built.exists_variant (h : Built index marker decl s)
    {variants : List VariantDecl} (hvariants : s.errorVariants = some variants) {m : MethodSpec}
    (hm : m ∈ s.methods) {variant : String} (hvariant : variant ∈ m.errorStatus.keys) :
    ∃ v ∈ variants, v.name = variant := by
  obtain ⟨status, hstatus⟩ := Table.mem_keys_iff.1 hvariant
  obtain ⟨item, type, rfl, -, herrType, hmappable⟩ := h.exists_mappable hm hstatus
  have hshared := ((checkMethods_eq_ok_iff.1 h.errorType).errorType type).2 ⟨m, hm, herrType⟩
  rw [h.eq, hshared] at hvariants
  exact hmappable.known variants hvariants

/-- Every status that a service maps a variant to is one of an error. -/
theorem ServiceSpec.Built.le_of_get?_errorStatuses (h : Built index marker decl s)
    {variant : String} {status : Nat} (hstatus : s.errorStatuses.get? variant = some status) :
    400 ≤ status := by
  obtain ⟨m, hm, hmaps⟩ := h.get?_errorStatuses_eq_some_iff.1 hstatus
  obtain ⟨item, _, -, rfl, -, hmappable⟩ := h.exists_mappable hm hmaps
  exact hmappable.status

end Built

end TransportGen
