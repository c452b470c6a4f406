import Mathlib.Data.List.Nodup
import TransportGen.Proofs.Except
import TransportGen.Proofs.Table
import TransportGen.Service.Build

/-!
# The checks across methods

Each check walks along the methods of a service and compares a method with those before it. What
they ask in the end says nothing of an order: `MethodsAgree` states it for the methods as a whole.

* `sharedErrorType_eq_ok_iff`, `checkStatuses_eq_ok_iff`, `checkRoutes_eq_ok_iff`,
  `checkClients_eq_ok_iff`: one check each.
* `checkMethods_eq_ok_iff`: all of them succeed exactly if the methods agree.
* `MethodsAgree.perm`: methods agree in any order if they do in one.
-/

namespace TransportGen

/-! ## One error type -/

theorem sharedErrorType_eq_ok_iff {first final : Option String} {methods : List MethodSpec} :
    sharedErrorType first methods = .ok final ↔
      ∀ type, final = some type ↔ first = some type ∨ ∃ m ∈ methods, m.errType = some type := by
  induction methods generalizing first with
  | nil =>
    have hrun : sharedErrorType first [] = .ok first := rfl
    rw [hrun]
    constructor
    · intro h type
      rw [Except.ok.inj h]
      simp
    · intro h
      apply congrArg Except.ok
      apply Option.ext
      intro type
      simpa using (h type).symm
  | cons m rest ih =>
    cases htype : m.errType with
    | none => simp [sharedErrorType, htype, ih]
    | some type =>
      cases first with
      | none => simp [sharedErrorType, htype, ih]
      | some prev =>
        by_cases heq : prev = type
        · simp [sharedErrorType, htype, ih, heq]
        · have hrun : sharedErrorType (some prev) (m :: rest) =
              .error (m.name, .twoErrorTypes type prev) := by
            simp [sharedErrorType, htype, heq]
          rw [hrun]
          constructor
          · intro h
            cases h
          · intro h
            have hprev : final = some prev := (h prev).2 (Or.inl rfl)
            have hown : final = some type := (h type).2 (Or.inr ⟨m, List.mem_cons_self, htype⟩)
            rw [hprev] at hown
            exact absurd (Option.some.inj hown) heq

/-! ## One status for a variant -/

/-- No key stands beside two values. -/
def Consistent (entries : List (String × Nat)) : Prop :=
  ∀ a ∈ entries, ∀ b ∈ entries, a.1 = b.1 → a.2 = b.2

instance (entries : List (String × Nat)) : Decidable (Consistent entries) :=
  inferInstanceAs (Decidable (∀ a ∈ entries, ∀ b ∈ entries, a.1 = b.1 → a.2 = b.2))

theorem Consistent.subset {entries others : List (String × Nat)} (h : Consistent entries)
    (hsub : others ⊆ entries) : Consistent others :=
  fun a ha b hb => h a (hsub ha) b (hsub hb)

/-- The statuses that are known are those of the entries met so far. -/
def Knows (known : Table String OwnedStatus) (met : List (String × Nat)) : Prop :=
  ∀ variant status, (known.get? variant).map Prod.fst = some status ↔ (variant, status) ∈ met

section Statuses

variable {known : Table String OwnedStatus} {met : List (String × Nat)}

theorem knows_empty : Knows ∅ [] := by
  intro variant status
  constructor
  · intro h
    cases h
  · intro h
    cases h

theorem Knows.consistent (h : Knows known met) : Consistent met := by
  rintro ⟨variant, a⟩ ha ⟨_, b⟩ hb rfl
  have hsame := ((h variant a).2 ha).symm.trans ((h variant b).2 hb)
  exact Option.some.inj hsame

theorem Knows.insert (h : Knows known met) {variant : String} (hnew : known.get? variant = none)
    (owned : OwnedStatus) :
    Knows (known.insert variant owned) (met ++ [(variant, owned.1)]) := by
  intro v status
  rw [Table.get?_insert, List.mem_append, List.mem_singleton, ← h]
  by_cases hv : v = variant
  · subst hv
    simp [hnew, eq_comm]
  · simp [hv]

theorem Knows.again (h : Knows known met) {variant owner : String} {status : Nat}
    (hold : known.get? variant = some (status, owner)) :
    Knows known (met ++ [(variant, status)]) := by
  have hmem : (variant, status) ∈ met := (h variant status).1 (by rw [hold]; rfl)
  intro v st
  rw [h, List.mem_append, List.mem_singleton]
  constructor
  · exact Or.inl
  · rintro (hmet | hlast)
    · exact hmet
    · rw [hlast]
      exact hmem

/-- Either the statuses of a method are known as well, or one of them was met with another value. -/
theorem addStatuses_cases (h : Knows known met) (method : String) (entries : List (String × Nat)) :
    (∃ known', addStatuses method known entries = .ok known' ∧ Knows known' (met ++ entries)) ∨
      (∃ problem, addStatuses method known entries = .error problem) ∧
        ¬Consistent (met ++ entries) := by
  induction entries generalizing known met with
  | nil =>
    rw [List.append_nil]
    exact Or.inl ⟨known, rfl, h⟩
  | cons entry rest ih =>
    obtain ⟨variant, status⟩ := entry
    rw [List.append_cons]
    cases hknown : known.get? variant with
    | none =>
      simp only [addStatuses, hknown]
      exact ih (h.insert hknown (status, method))
    | some owned =>
      obtain ⟨first, owner⟩ := owned
      simp only [addStatuses, hknown]
      by_cases heq : first = status
      · subst heq
        rw [if_pos rfl]
        exact ih (h.again hknown)
      · rw [if_neg heq]
        refine Or.inr ⟨⟨_, rfl⟩, fun hconsistent => heq ?_⟩
        have hfirst : (variant, first) ∈ met := (h variant first).1 (by rw [hknown]; rfl)
        apply hconsistent (variant, first) _ (variant, status) _ rfl
        · simp [hfirst]
        · simp

theorem checkStatuses_eq_ok_iff (h : Knows known met) {methods : List MethodSpec} :
    checkStatuses known methods = .ok () ↔
      Consistent (met ++ methods.flatMap (·.errorStatus.entries)) := by
  induction methods generalizing known met with
  | nil =>
    rw [List.flatMap_nil, List.append_nil]
    exact ⟨fun _ => h.consistent, fun _ => rfl⟩
  | cons m rest ih =>
    rw [List.flatMap_cons, ← List.append_assoc]
    rcases addStatuses_cases h m.name m.errorStatus.entries with
      ⟨known', hadd, hknows⟩ | ⟨⟨problem, hadd⟩, hclash⟩
    · simp only [checkStatuses, hadd]
      exact ih hknows
    · simp only [checkStatuses, hadd]
      constructor
      · intro hrun
        cases hrun
      · intro hconsistent
        exact absurd (hconsistent.subset (List.subset_append_left _ _)) hclash

end Statuses

/-! ## Different routes -/

theorem checkRoutes_eq_ok_iff {before methods : List MethodSpec}
    (h : (before.map MethodSpec.routeKey).Nodup) :
    checkRoutes before methods = .ok () ↔ ((before ++ methods).map MethodSpec.routeKey).Nodup := by
  induction methods generalizing before with
  | nil =>
    rw [List.append_nil]
    exact ⟨fun _ => h, fun _ => rfl⟩
  | cons m rest ih =>
    rw [List.append_cons]
    cases hfound : before.find? (·.routeKey = m.routeKey) with
    | none =>
      have hnew : ∀ prev ∈ before, prev.routeKey ≠ m.routeKey := by
        simpa using List.find?_eq_none.1 hfound
      have hnext : ((before ++ [m]).map MethodSpec.routeKey).Nodup := by
        rw [List.map_append, List.map_singleton, List.nodup_append]
        refine ⟨h, List.nodup_singleton _, ?_⟩
        intro a ha b hb
        obtain ⟨prev, hprev, rfl⟩ := List.mem_map.1 ha
        rw [List.mem_singleton.1 hb]
        exact hnew prev hprev
      simp only [checkRoutes, hfound]
      exact ih hnext
    | some prev =>
      have hkey : prev.routeKey = m.routeKey := by simpa using List.find?_some hfound
      have hprev : prev ∈ before := List.mem_of_find?_eq_some hfound
      simp only [checkRoutes, hfound]
      constructor
      · intro hrun
        cases hrun
      · intro hnodup
        rw [List.append_assoc, List.map_append, List.nodup_append] at hnodup
        have hm : m.routeKey ∈ ([m] ++ rest).map MethodSpec.routeKey :=
          List.mem_map_of_mem List.mem_cons_self
        exact absurd hkey (hnodup.2.2 _ (List.mem_map_of_mem hprev) _ hm)

/-! ## Results for clients -/

theorem checkClients_eq_ok_iff {processors : List Processor} {methods : List MethodSpec} :
    checkClients processors methods = .ok () ↔
      (processors.any Processor.isClient = true → ∀ m ∈ methods, m.returnsResult = true) := by
  unfold checkClients
  by_cases hclient : processors.any Processor.isClient = true
  · rw [if_pos hclient]
    cases hfound : methods.find? (! ·.returnsResult) with
    | none =>
      have hall : ∀ m ∈ methods, m.returnsResult = true := by
        simpa using List.find?_eq_none.1 hfound
      exact ⟨fun _ _ => hall, fun _ => rfl⟩
    | some m =>
      have hm : m ∈ methods := List.mem_of_find?_eq_some hfound
      have hnot : m.returnsResult = false := by simpa using List.find?_some hfound
      constructor
      · intro hrun
        cases hrun
      · intro hall
        rw [hall hclient m hm] at hnot
        cases hnot
  · rw [if_neg hclient]
    exact ⟨fun _ h => absurd h hclient, fun _ => rfl⟩

/-! ## All checks -/

/-- What the checks ask of the methods of a service. -/
structure MethodsAgree (processors : List Processor) (methods : List MethodSpec)
    (errorType : Option String) : Prop where
  /-- The error type is the one of all methods that have one. -/
  errorType : ∀ type, errorType = some type ↔ ∃ m ∈ methods, m.errType = some type
  /-- No variant has two statuses. -/
  statuses : Consistent (methods.flatMap (·.errorStatus.entries))
  /-- No route key occurs twice. -/
  routes : (methods.map MethodSpec.routeKey).Nodup
  /-- Where there is a client, every method returns a `Result`. -/
  results : processors.any Processor.isClient = true → ∀ m ∈ methods, m.returnsResult = true

variable {processors : List Processor} {methods : List MethodSpec} {errorType : Option String}

/-- **The checks across methods.** They succeed exactly if the methods agree. -/
theorem checkMethods_eq_ok_iff :
    checkMethods processors methods = .ok errorType ↔
      MethodsAgree processors methods errorType := by
  have htype : sharedErrorType none methods = .ok errorType ↔
      ∀ type, errorType = some type ↔ ∃ m ∈ methods, m.errType = some type := by
    rw [sharedErrorType_eq_ok_iff]
    simp
  have hstatuses : checkStatuses ∅ methods = .ok () ↔
      Consistent (methods.flatMap (·.errorStatus.entries)) :=
    checkStatuses_eq_ok_iff knows_empty
  have hroutes : checkRoutes [] methods = .ok () ↔ (methods.map MethodSpec.routeKey).Nodup :=
    checkRoutes_eq_ok_iff List.nodup_nil
  unfold checkMethods
  constructor
  · intro h
    obtain ⟨type, hshared, h⟩ := bind_eq_ok.1 h
    obtain ⟨_, hstatus, h⟩ := bind_eq_ok.1 h
    obtain ⟨_, hroute, h⟩ := bind_eq_ok.1 h
    obtain ⟨_, hclient, h⟩ := bind_eq_ok.1 h
    cases h
    exact ⟨htype.1 hshared, hstatuses.1 hstatus, hroutes.1 hroute,
      checkClients_eq_ok_iff.1 hclient⟩
  · intro h
    refine bind_eq_ok.2 ⟨_, htype.2 h.errorType, bind_eq_ok.2 ⟨(), hstatuses.2 h.statuses, ?_⟩⟩
    refine bind_eq_ok.2 ⟨(), hroutes.2 h.routes, bind_eq_ok.2 ⟨(), ?_, rfl⟩⟩
    exact checkClients_eq_ok_iff.2 h.results

/-- **No order.** Methods that agree do so in any order, with the same error type. -/
theorem MethodsAgree.perm (h : MethodsAgree processors methods errorType)
    {others : List MethodSpec} (hperm : others.Perm methods) :
    MethodsAgree processors others errorType := by
  constructor
  case errorType =>
    intro type
    rw [h.errorType type]
    simp only [hperm.mem_iff]
  case statuses =>
    have hentries := hperm.flatMap_right (·.errorStatus.entries)
    exact h.statuses.subset hentries.subset
  case routes =>
    exact ((hperm.map MethodSpec.routeKey).nodup_iff).2 h.routes
  case results =>
    intro hclient m hm
    exact h.results hclient m (hperm.mem_iff.1 hm)

end TransportGen
