import TransportGen.Proofs.Artifact.Errors
import TransportGen.Proofs.Directive.Method

/-!
# Answers of a service

A handler sends the status of the method where the service answers with a value, and the status of
the variant where it answers with an error. The client tells the two apart by the status alone: it
takes the statuses from 200 to 299 for successes. Errors are never taken for values, for no service
maps a variant to a status below 400 (`readStatus_error`). The status of a success has no such
bound, and a value is taken for a value exactly if its status is one of 200 to 299
(`answers_kept_iff`).
-/

namespace TransportGen.Artifact

/-- What a service answers with. -/
inductive Answer where
  | value
  | error (variant : String)
  deriving DecidableEq

/-- The status of an error that no directive maps. -/
def unmappedStatus : Nat := 500

/-- The status that the handler of a method sends. -/
def sentStatus (s : ServiceSpec) (m : MethodSpec) : Answer → Nat
  | .value => (MethodView.of s.errorType m).status
  | .error variant => (encodedStatus? s variant).getD unmappedStatus

/-- Whether a client takes a status for that of a success. -/
def IsSuccess (status : Nat) : Prop := 200 ≤ status ∧ status < 300

instance (status : Nat) : Decidable (IsSuccess status) :=
  inferInstanceAs (Decidable (200 ≤ status ∧ status < 300))

/-- What a client makes of the status of a response. -/
inductive Reading where
  | value
  /-- An error, with the variant that the status is decoded to if there is one. -/
  | error (variant? : Option String)
  deriving DecidableEq

/-- What the client of a service makes of a status. -/
def readStatus (s : ServiceSpec) (status : Nat) : Reading :=
  if IsSuccess status then .value else .error (decodedVariant? s status)

/-- A client takes the values of a method for values and its errors for errors. -/
structure AnswersKept (s : ServiceSpec) (m : MethodSpec) : Prop where
  value : readStatus s (sentStatus s m .value) = .value
  error : ∀ variant, ∃ decoded, readStatus s (sentStatus s m (.error variant)) = .error decoded

theorem readStatus_eq_value_iff {s : ServiceSpec} {status : Nat} :
    readStatus s status = .value ↔ IsSuccess status := by
  unfold readStatus
  by_cases hsuccess : IsSuccess status
  · simp [hsuccess]
  · simp [hsuccess]

theorem readStatus_of_not_isSuccess {s : ServiceSpec} {status : Nat} (h : ¬IsSuccess status) :
    readStatus s status = .error (decodedVariant? s status) :=
  if_neg h

/-- The server maps a variant only to the status that the service gives it. -/
theorem get?_of_encodedStatus? {s : ServiceSpec} {variant : String} {status : Nat}
    (h : encodedStatus? s variant = some status) : s.errorStatuses.get? variant = some status := by
  obtain ⟨arm, harm, rfl⟩ := Option.map_eq_some_iff.1 h
  have hmem : arm ∈ serverMappings s := List.mem_of_find?_eq_some harm
  have hvariant : arm.variant = variant := by simpa using List.find?_some harm
  rw [← hvariant]
  cases hvariants : s.errorVariants with
  | some variants =>
    rw [serverMappings_eq hvariants] at hmem
    exact (mem_armsOf.1 hmem).2
  | none =>
    simp only [serverMappings, hvariants] at hmem
    obtain ⟨entry, hentry, rfl⟩ := List.mem_map.1 hmem
    exact Table.get?_eq_some_iff.2 hentry

section Built

variable {index : TypeIndex} {marker : String} {decl : InterfaceDecl} {s : ServiceSpec}

theorem not_isSuccess_of_get? (h : ServiceSpec.Built index marker decl s) {variant : String}
    {status : Nat} (hstatus : s.errorStatuses.get? variant = some status) : ¬IsSuccess status := by
  have hle := h.le_of_get?_errorStatuses hstatus
  intro hsuccess
  have hlt := hsuccess.2
  omega

/-- **Errors are read as errors.** -/
theorem readStatus_error (h : ServiceSpec.Built index marker decl s) (m : MethodSpec)
    (variant : String) :
    ∃ decoded, readStatus s (sentStatus s m (.error variant)) = .error decoded := by
  have hfailure : ¬IsSuccess ((encodedStatus? s variant).getD unmappedStatus) := by
    cases hencoded : encodedStatus? s variant with
    | none => decide
    | some status => exact not_isSuccess_of_get? h (get?_of_encodedStatus? hencoded)
  exact ⟨_, readStatus_of_not_isSuccess hfailure⟩

/-- The status of a success is that of the last directive for it, and 200 without one. -/
theorem sentStatus_value {interface : String} {m : MethodDecl} {spec : MethodSpec}
    (h : m.HasContract index marker interface spec) :
    ∃ statuses, MethodDirectives.statusPart.valuesIn marker m.docs = .ok statuses ∧
      sentStatus s spec .value = statuses.getLast?.getD 200 := by
  obtain ⟨d, hparse, hbuilt⟩ := h
  obtain ⟨statuses, hstatuses, hlast⟩ := MethodDirectives.parse_responseStatus hparse
  refine ⟨statuses, hstatuses, ?_⟩
  have hspec : spec.responseStatus = d.responseStatus.getD 200 := by rw [hbuilt.eq]
  rw [hlast] at hspec
  exact hspec

/-- **Values and errors are told apart by status.** No status that a built service maps a variant to
is taken for a success. The answers of a method are all read for what they are exactly if its last
`response-status` directive, where it has one, gives a status from 200 to 299. -/
theorem answers_kept_iff (h : ServiceSpec.build index marker decl = .ok (some s)) :
    (∀ variant status, s.errorStatuses.get? variant = some status → ¬IsSuccess status) ∧
      List.Forall₂ (fun m spec => ∃ statuses,
        MethodDirectives.statusPart.valuesIn marker m.docs = .ok statuses ∧
        (AnswersKept s spec ↔ ∀ status ∈ statuses.getLast?, 200 ≤ status ∧ status < 300))
        (decl.marked marker) s.methods := by
  have hbuilt := ServiceSpec.built_of_build h
  refine ⟨fun variant status hstatus => not_isSuccess_of_get? hbuilt hstatus, ?_⟩
  obtain ⟨_, -, hmethods⟩ := hbuilt.methods
  refine (buildMethods_ok hmethods).imp ?_
  intro m spec hcontract
  obtain ⟨statuses, hstatuses, hsent⟩ := sentStatus_value (s := s) hcontract
  refine ⟨statuses, hstatuses, ?_⟩
  have hvalue : readStatus s (sentStatus s spec .value) = .value ↔
      ∀ status ∈ statuses.getLast?, 200 ≤ status ∧ status < 300 := by
    rw [readStatus_eq_value_iff, hsent]
    cases statuses.getLast? with
    | none => simp [IsSuccess]
    | some status => simp [IsSuccess]
  constructor
  · intro hkept
    exact hvalue.1 hkept.value
  · intro hrange
    exact ⟨hvalue.2 hrange, readStatus_error hbuilt spec⟩

end Built

/-- A trait with server and client, and a method with some directives. -/
def recordTrait (directives : List String) : InterfaceDecl :=
  { lookupTrait with
    docs := ["@gtg http-server http-client"]
    methods := [{ lookupMethod "find" "Missing=404" with
      docs := "@gtg errors Missing=404" :: directives }] }

/-- The last directive counts. -/
theorem answers_kept_record :
    ∃ s, ServiceSpec.build (TypeIndex.insert {} lookupFailure) "@gtg"
        (recordTrait ["@gtg response-status 404", "@gtg response-status 201"]) = .ok (some s) ∧
      s.processors.any Processor.isClient = true ∧ s.methods ≠ [] ∧
      (∀ m ∈ s.methods, AnswersKept s m ∧ sentStatus s m .value = 201) ∧
      s.errorStatuses.get? "Missing" = some 404 ∧ ¬IsSuccess 404 := by
  have hbuild : (ServiceSpec.build (TypeIndex.insert {} lookupFailure) "@gtg"
      (recordTrait ["@gtg response-status 404", "@gtg response-status 201"])).toOption.join.any
        (fun s => s.processors.any Processor.isClient = true ∧ s.methods ≠ [] ∧
          (∀ m ∈ s.methods, sentStatus s m .value = 201) ∧
          s.errorStatuses.get? "Missing" = some 404) = true := by
    decide +kernel
  obtain ⟨s, hs, hclient, hne, hsent, hmaps⟩ := exists_ok_of_any hbuild
  obtain ⟨hfailure, hall⟩ := answers_kept_iff hs
  have hstatuses : ∀ m ∈ (recordTrait ["@gtg response-status 404",
      "@gtg response-status 201"]).methods,
      MethodDirectives.statusPart.valuesIn "@gtg" m.docs = .ok [404, 201] := by
    decide +kernel
  refine ⟨s, hs, hclient, hne, ?_, hmaps, hfailure "Missing" 404 hmaps⟩
  intro spec hspec
  obtain ⟨m, hm, statuses, hvalues, hiff⟩ := exists_of_mem_right hall hspec
  rw [hstatuses m (List.mem_filter.1 hm).1] at hvalues
  cases hvalues
  exact ⟨hiff.2 (by decide), hsent spec hspec⟩

/-- **Not every value is taken for one.** The client decodes the status of a success to an error. -/
theorem value_lost_record :
    ∃ s m, ServiceSpec.build (TypeIndex.insert {} lookupFailure) "@gtg"
        (recordTrait ["@gtg response-status 404"]) = .ok (some s) ∧
      s.processors.any Processor.isClient = true ∧ m ∈ s.methods ∧
      sentStatus s m .value = 404 ∧
      readStatus s (sentStatus s m .value) = .error (some "Missing") ∧ ¬AnswersKept s m := by
  have hbuild : (ServiceSpec.build (TypeIndex.insert {} lookupFailure) "@gtg"
      (recordTrait ["@gtg response-status 404"])).toOption.join.any (fun s =>
        s.processors.any Processor.isClient = true ∧ ∃ m ∈ s.methods,
          sentStatus s m .value = 404 ∧ decodedVariant? s 404 = some "Missing") = true := by
    decide +kernel
  obtain ⟨s, hs, hclient, m, hm, hsent, hdecoded⟩ := exists_ok_of_any hbuild
  have hread : readStatus s (sentStatus s m .value) = .error (some "Missing") := by
    rw [hsent, readStatus_of_not_isSuccess (by decide), hdecoded]
  refine ⟨s, m, hs, hclient, hm, hsent, hread, ?_⟩
  intro hkept
  have hvalue := hkept.value
  rw [hread] at hvalue
  cases hvalue

end TransportGen.Artifact
