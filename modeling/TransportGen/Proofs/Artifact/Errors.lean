import TransportGen.Artifact.Errors
import TransportGen.Proofs.Service.Statuses

/-!
# Encoding and decoding errors

The server gives an error the status of the first arm that its variant fits (`encodedStatus?`), and
the client gives a status the variant of the first arm that has it (`decodedVariant?`).
`ErrorsFit` says how the two lists of arms belong together; the lists of every built service whose
error enumeration is known do (`errors_fit`).
-/

namespace TransportGen.Artifact

/-! ## Arms -/

/-- The status that the server gives a variant: that of the first arm for the variant. -/
def encodedStatus? (s : ServiceSpec) (variant : String) : Option Nat :=
  ((serverMappings s).find? (·.variant = variant)).map (·.status)

/-- The variant that the client gives a status: that of the first arm for the status. -/
def decodedVariant? (s : ServiceSpec) (status : Nat) : Option String :=
  ((clientMappings s).find? (·.status = status)).map (·.variant)

theorem firstPerStatus_sublist (seen : List Nat) (arms : List ErrorMapping) :
    (firstPerStatus seen arms).Sublist arms := by
  induction arms generalizing seen with
  | nil => exact .slnil
  | cons e rest ih =>
    unfold firstPerStatus
    split
    · exact (ih seen).cons e
    · exact (ih (e.status :: seen)).cons_cons e

theorem not_mem_seen_of_mem_firstPerStatus {seen : List Nat} {arms : List ErrorMapping}
    {e : ErrorMapping} (h : e ∈ firstPerStatus seen arms) : e.status ∉ seen := by
  induction arms generalizing seen with
  | nil => cases h
  | cons first rest ih =>
    unfold firstPerStatus at h
    split at h
    · exact ih h
    · rename_i hseen
      rcases List.mem_cons.1 h with rfl | h
      · simpa using hseen
      · exact fun hmem => ih h (List.mem_cons_of_mem _ hmem)

theorem nodup_status_firstPerStatus (seen : List Nat) (arms : List ErrorMapping) :
    ((firstPerStatus seen arms).map (·.status)).Nodup := by
  induction arms generalizing seen with
  | nil => exact List.nodup_nil
  | cons first rest ih =>
    unfold firstPerStatus
    split
    · exact ih seen
    · rw [List.map_cons, List.nodup_cons]
      refine ⟨fun hmem => ?_, ih _⟩
      obtain ⟨e, he, heq⟩ := List.mem_map.1 hmem
      apply not_mem_seen_of_mem_firstPerStatus he
      rw [heq]
      exact List.mem_cons_self

/-- Leaving out all arms but the first of each status does not change what a status finds. -/
theorem find?_firstPerStatus {seen : List Nat} {status : Nat} (h : status ∉ seen)
    (arms : List ErrorMapping) :
    (firstPerStatus seen arms).find? (·.status = status) =
      arms.find? (·.status = status) := by
  induction arms generalizing seen with
  | nil => rfl
  | cons first rest ih =>
    unfold firstPerStatus
    by_cases hstatus : first.status = status
    · have hseen : seen.contains first.status = false := by
        rw [hstatus]
        simpa using h
      rw [hseen]
      simp [hstatus]
    · rw [List.find?_cons_of_neg (by simpa using hstatus)]
      split
      · exact ih h
      · rw [List.find?_cons_of_neg (by simpa using hstatus)]
        exact ih (List.not_mem_cons_of_ne_of_not_mem (Ne.symm hstatus) h)

/-! ## Arms of variants -/

section Arms

variable {statuses : Table String Nat} {variants : List VariantDecl}

/-- The arms of the variants that have a status, in their order. -/
def armsOf (statuses : Table String Nat) (variants : List VariantDecl) : List ErrorMapping :=
  variants.filterMap fun v => (statuses.get? v.name).map (ErrorMapping.mk v.name)

theorem mem_armsOf {e : ErrorMapping} :
    e ∈ armsOf statuses variants ↔
      (∃ v ∈ variants, v.name = e.variant) ∧ statuses.get? e.variant = some e.status := by
  simp only [armsOf, List.mem_filterMap, Option.map_eq_some_iff]
  constructor
  · rintro ⟨v, hv, status, hstatus, rfl⟩
    exact ⟨⟨v, hv, rfl⟩, hstatus⟩
  · rintro ⟨⟨v, hv, hname⟩, hstatus⟩
    exact ⟨v, hv, e.status, by rw [hname, hstatus], by rw [hname]⟩

theorem nodup_variant_armsOf (h : (variants.map VariantDecl.name).Nodup) :
    ((armsOf statuses variants).map (·.variant)).Nodup := by
  refine h.sublist ?_
  unfold armsOf
  induction variants with
  | nil => exact .slnil
  | cons v rest ih =>
    have hrest := ih (List.nodup_cons.1 h).2
    rw [List.map_cons]
    cases hstatus : statuses.get? v.name with
    | none =>
      rw [List.filterMap_cons_none (by rw [hstatus]; rfl)]
      exact hrest.cons _
    | some status =>
      rw [List.filterMap_cons_some (by rw [hstatus]; rfl), List.map_cons]
      exact hrest.cons_cons _

theorem find?_variant_armsOf {variant : String} (h : ∃ v ∈ variants, v.name = variant) :
    ((armsOf statuses variants).find? (·.variant = variant)).map (·.status) =
      statuses.get? variant := by
  cases hfind : (armsOf statuses variants).find? (·.variant = variant) with
  | some e =>
    have hvariant : e.variant = variant := by simpa using List.find?_some hfind
    rw [← hvariant, (mem_armsOf.1 (List.mem_of_find?_eq_some hfind)).2]
    rfl
  | none =>
    cases hstatus : statuses.get? variant with
    | none => rfl
    | some status =>
      have hmem : ⟨variant, status⟩ ∈ armsOf statuses variants := mem_armsOf.2 ⟨h, hstatus⟩
      simpa using List.find?_eq_none.1 hfind _ hmem

/-- A status finds the first variant that has it. -/
theorem find?_status_armsOf (status : Nat) :
    ((armsOf statuses variants).find? (·.status = status)).map (·.variant) =
      (variants.find? fun v => statuses.get? v.name = some status).map VariantDecl.name := by
  induction variants with
  | nil => rfl
  | cons v rest ih =>
    unfold armsOf at ih ⊢
    cases hstatus : statuses.get? v.name with
    | none =>
      rw [List.filterMap_cons_none (by rw [hstatus]; rfl), ih,
        List.find?_cons_of_neg (by simp [hstatus])]
    | some status' =>
      rw [List.filterMap_cons_some (by rw [hstatus]; rfl)]
      by_cases heq : status' = status
      · rw [List.find?_cons_of_pos (by simp [heq]), List.find?_cons_of_pos (by simp [hstatus, heq])]
        rfl
      · rw [List.find?_cons_of_neg (by simp [heq]), ih,
          List.find?_cons_of_neg (by simp [hstatus, heq])]

end Arms

/-! ## Services -/

/-- The arms of server and client belong together. -/
structure ErrorsFit (s : ServiceSpec) (variants : List VariantDecl) : Prop where
  /-- The server has one arm for a variant, … -/
  server_nodup : ((serverMappings s).map (·.variant)).Nodup
  /-- … if a method maps it, with the status that the method gives. -/
  server_iff : ∀ variant status, ⟨variant, status⟩ ∈ serverMappings s ↔
    ∃ m ∈ s.methods, m.errorStatus.get? variant = some status
  /-- All methods that map a variant give it one status. -/
  server_agrees : ∀ e ∈ serverMappings s, ∀ m ∈ s.methods, ∀ status,
    m.errorStatus.get? e.variant = some status → status = e.status
  /-- The client has at most one arm for a status. -/
  client_nodup : ((clientMappings s).map (·.status)).Nodup
  /-- Its arms are arms of the server, for variants without fields. -/
  client_sound : ∀ e ∈ clientMappings s, e ∈ serverMappings s ∧
    ∃ v ∈ variants, v.name = e.variant ∧ v.isUnit = true
  /-- The status of a variant without fields has an arm, for the first such variant with it. -/
  client_first : ∀ v ∈ variants, v.isUnit = true → ∀ status, ⟨v.name, status⟩ ∈ serverMappings s →
    ∃ w, variants.find? (fun w => w.isUnit && ⟨w.name, status⟩ ∈ serverMappings s) = some w ∧
      ⟨w.name, status⟩ ∈ clientMappings s
  /-- What the status of such a variant is decoded to has the same status, and is the variant itself
  exactly if no earlier one has its status. -/
  decode_encode : ∀ before v after, variants = before ++ v :: after → v.isUnit = true →
    ∀ status, encodedStatus? s v.name = some status →
      ∃ w, decodedVariant? s status = some w ∧ encodedStatus? s w = some status ∧
        (w = v.name ↔ ∀ u ∈ before, u.isUnit = true → encodedStatus? s u.name ≠ some status)

section Known

variable {s : ServiceSpec} {variants : List VariantDecl}

theorem serverMappings_eq (h : s.errorVariants = some variants) :
    serverMappings s = armsOf s.errorStatuses variants := by
  simp only [serverMappings, h]
  rfl

theorem clientMappings_eq (h : s.errorVariants = some variants) :
    clientMappings s = firstPerStatus [] (armsOf s.errorStatuses (variants.filter (·.isUnit))) := by
  simp only [clientMappings, h]
  rfl

theorem encodedStatus?_eq (h : s.errorVariants = some variants) {v : VariantDecl}
    (hv : v ∈ variants) : encodedStatus? s v.name = s.errorStatuses.get? v.name := by
  rw [encodedStatus?, serverMappings_eq h]
  exact find?_variant_armsOf ⟨v, hv, rfl⟩

/-- Whether a variant has no fields and a given status. -/
def decodesTo (s : ServiceSpec) (status : Nat) (v : VariantDecl) : Bool :=
  v.isUnit && s.errorStatuses.get? v.name = some status

theorem decodesTo_iff (h : s.errorVariants = some variants) {v : VariantDecl} (hv : v ∈ variants)
    {status : Nat} : decodesTo s status v = true ↔
      v.isUnit = true ∧ encodedStatus? s v.name = some status := by
  rw [encodedStatus?_eq h hv, decodesTo, Bool.and_eq_true, decide_eq_true_iff]

theorem decodedVariant?_eq (h : s.errorVariants = some variants) (status : Nat) :
    decodedVariant? s status = (variants.find? (decodesTo s status)).map VariantDecl.name := by
  rw [decodedVariant?, clientMappings_eq h, find?_firstPerStatus List.not_mem_nil,
    find?_status_armsOf, List.find?_filter]
  simp only [Bool.decide_and, Bool.decide_eq_true]
  rfl

theorem mem_clientMappings_of_decodedVariant? {status : Nat} {variant : String}
    (h : decodedVariant? s status = some variant) : ⟨variant, status⟩ ∈ clientMappings s := by
  obtain ⟨e, he, rfl⟩ := Option.map_eq_some_iff.1 h
  have hstatus : e.status = status := by simpa using List.find?_some he
  rw [← hstatus]
  exact List.mem_of_find?_eq_some he

/-- The variant that a status is decoded to comes first, so it is a given one exactly if none before
that one has the status. -/
theorem decodedVariant?_split (h : s.errorVariants = some variants)
    (hnames : (variants.map VariantDecl.name).Nodup) {before after : List VariantDecl}
    {v : VariantDecl} (hsplit : variants = before ++ v :: after) {status : Nat}
    (hv : decodesTo s status v = true) :
    ∃ w ∈ variants, decodedVariant? s status = some w.name ∧ decodesTo s status w = true ∧
      (w.name = v.name ↔ ∀ u ∈ before, decodesTo s status u = false) := by
  rw [decodedVariant?_eq h]
  cases hbefore : before.find? (decodesTo s status) with
  | some u =>
    have hu := List.mem_of_find?_eq_some hbefore
    have hdecodes := List.find?_some hbefore
    have hne : u.name ≠ v.name := by
      rw [hsplit, List.map_append, List.nodup_append] at hnames
      exact hnames.2.2 _ (List.mem_map_of_mem hu) _ List.mem_cons_self
    refine ⟨u, hsplit ▸ List.mem_append_left _ hu, ?_, hdecodes, fun heq => (hne heq).elim, ?_⟩
    · rw [hsplit, List.find?_append, hbefore]
      rfl
    · intro hnone
      rw [hnone u hu] at hdecodes
      cases hdecodes
  | none =>
    refine ⟨v, hsplit ▸ List.mem_append_right _ List.mem_cons_self, ?_, hv, fun _ => ?_,
      fun _ => rfl⟩
    · rw [hsplit, List.find?_append, hbefore, List.find?_cons_of_pos hv]
      rfl
    · simpa using List.find?_eq_none.1 hbefore

theorem exists_first_decodesTo (h : s.errorVariants = some variants) {v : VariantDecl}
    (hv : v ∈ variants) {status : Nat} (hdecodes : decodesTo s status v = true) :
    ∃ w, variants.find? (decodesTo s status) = some w ∧ ⟨w.name, status⟩ ∈ clientMappings s := by
  obtain ⟨w, hw⟩ := Option.isSome_iff_exists.1 (List.find?_isSome.2 ⟨v, hv, hdecodes⟩)
  refine ⟨w, hw, mem_clientMappings_of_decodedVariant? ?_⟩
  rw [decodedVariant?_eq h, hw]
  rfl

/-- Decoding the status of a variant without fields gives a variant with the same status. -/
theorem decode_encode (h : s.errorVariants = some variants)
    (hnames : (variants.map VariantDecl.name).Nodup) {before after : List VariantDecl}
    {v : VariantDecl} (hsplit : variants = before ++ v :: after) (hunit : v.isUnit = true)
    {status : Nat} (hstatus : encodedStatus? s v.name = some status) :
    ∃ w, decodedVariant? s status = some w ∧ encodedStatus? s w = some status ∧
      (w = v.name ↔ ∀ u ∈ before, u.isUnit = true → encodedStatus? s u.name ≠ some status) := by
  have hbefore : ∀ u ∈ before, u ∈ variants := fun u hu => hsplit ▸ List.mem_append_left _ hu
  have hv : v ∈ variants := hsplit ▸ List.mem_append_right _ List.mem_cons_self
  have hdecodes := (decodesTo_iff h hv).2 ⟨hunit, hstatus⟩
  obtain ⟨w, hw, hdecoded, hwdecodes, hiff⟩ := decodedVariant?_split h hnames hsplit hdecodes
  refine ⟨w.name, hdecoded, ((decodesTo_iff h hw).1 hwdecodes).2, hiff.trans ?_⟩
  refine forall₂_congr fun u hu => ?_
  rw [← Bool.not_eq_true, decodesTo_iff h (hbefore u hu), not_and]

end Known

section Built

variable {index : TypeIndex} {marker : String} {decl : InterfaceDecl} {s : ServiceSpec}
  {variants : List VariantDecl}

/-- The server has an arm for each variant that has a status in the service. -/
theorem mem_serverMappings_iff (hbuilt : ServiceSpec.Built index marker decl s)
    (hvariants : s.errorVariants = some variants) {variant : String} {status : Nat} :
    ⟨variant, status⟩ ∈ serverMappings s ↔ s.errorStatuses.get? variant = some status := by
  rw [serverMappings_eq hvariants, mem_armsOf]
  refine and_iff_right_of_imp fun hstatus => ?_
  obtain ⟨m, hm, hmaps⟩ := hbuilt.get?_errorStatuses_eq_some_iff.1 hstatus
  exact hbuilt.exists_variant hvariants hm (Table.mem_keys_iff.2 ⟨status, hmaps⟩)

/-- **Encoding and decoding fit together.** In a built service whose error enumeration is known and
has variants of different names, the server maps exactly the variants that methods map, and the
client maps each status back to the first variant without fields that has it. -/
theorem errors_fit (h : ServiceSpec.build index marker decl = .ok (some s))
    (hvariants : s.errorVariants = some variants)
    (hnames : (variants.map VariantDecl.name).Nodup) : ErrorsFit s variants := by
  have hbuilt := ServiceSpec.built_of_build h
  constructor
  case server_nodup =>
    rw [serverMappings_eq hvariants]
    exact nodup_variant_armsOf hnames
  case server_iff =>
    intro variant status
    rw [mem_serverMappings_iff hbuilt hvariants, hbuilt.get?_errorStatuses_eq_some_iff]
  case server_agrees =>
    intro e he m hm status hmaps
    have hstatus := hbuilt.get?_errorStatuses_eq_some_iff.2 ⟨m, hm, hmaps⟩
    rw [(mem_serverMappings_iff hbuilt hvariants).1 he] at hstatus
    exact (Option.some.inj hstatus).symm
  case client_nodup =>
    rw [clientMappings_eq hvariants]
    exact nodup_status_firstPerStatus [] _
  case client_sound =>
    intro e he
    rw [clientMappings_eq hvariants] at he
    obtain ⟨⟨v, hv, hname⟩, hstatus⟩ := mem_armsOf.1 ((firstPerStatus_sublist _ _).subset he)
    obtain ⟨hmem, hunit⟩ := List.mem_filter.1 hv
    exact ⟨(mem_serverMappings_iff hbuilt hvariants).2 hstatus, v, hmem, hname, hunit⟩
  case client_first =>
    intro v hv hunit status hstatus
    have hdecodes : decodesTo s status v = true := by
      rw [decodesTo, hunit, (mem_serverMappings_iff hbuilt hvariants).1 hstatus]
      simp
    simp only [mem_serverMappings_iff hbuilt hvariants]
    exact exists_first_decodesTo hvariants hv hdecodes
  case decode_encode =>
    intro before v after hsplit hunit status hstatus
    exact decode_encode hvariants hnames hsplit hunit hstatus

end Built

/-- An enumeration with three variants of one status, one of which has fields. -/
def lookupFailure : TypeDecl where
  name := "Failure"
  modulePath := "crate"
  shape := .variants [⟨"Gone", false⟩, ⟨"Missing", true⟩, ⟨"Removed", true⟩, ⟨"Denied", true⟩]

/-- A method that may fail, with its error statuses. -/
def lookupMethod (name errors : String) : MethodDecl where
  name
  docs := ["@gtg errors " ++ errors]
  receiver := .ref
  params := []
  unsupportedParam := none
  isGeneric := false
  isAsync := false
  hasDefault := false
  returnType := "Result<String, Failure>"
  okType := some "String"
  errType := some "Failure"
  returnsResult := true
  referencedTypes := ∅

/-- A trait that maps the variants in two methods. -/
def lookupTrait : InterfaceDecl where
  name := "Lookup"
  docs := []
  methods := [lookupMethod "first" "Gone=404, Failure::Removed=404",
    lookupMethod "last" "Missing=404, Removed=404, Denied=403"]
  modulePath := "crate"
  sourcePath := ⟨"src/lib.rs"⟩
  isGeneric := false

/-- The status of `Removed` is decoded to `Missing`, which comes first; that of `Denied` is decoded
to itself. -/
theorem errors_fit_lookup :
    ∃ s variants, ServiceSpec.build (TypeIndex.insert {} lookupFailure) "@gtg" lookupTrait =
        .ok (some s) ∧ s.errorVariants = some variants ∧
      (variants.map VariantDecl.name).Nodup ∧ ErrorsFit s variants ∧
      encodedStatus? s "Removed" = some 404 ∧ decodedVariant? s 404 = some "Missing" ∧
      encodedStatus? s "Denied" = some 403 ∧ decodedVariant? s 403 = some "Denied" := by
  have hbuild : (ServiceSpec.build (TypeIndex.insert {} lookupFailure) "@gtg"
      lookupTrait).toOption.join.any (fun s =>
        s.errorVariants = some [⟨"Gone", false⟩, ⟨"Missing", true⟩, ⟨"Removed", true⟩,
          ⟨"Denied", true⟩] ∧
        encodedStatus? s "Removed" = some 404 ∧ decodedVariant? s 404 = some "Missing" ∧
        encodedStatus? s "Denied" = some 403 ∧ decodedVariant? s 403 = some "Denied") = true := by
    decide +kernel
  obtain ⟨s, hs, hvariants, hcodes⟩ := exists_ok_of_any hbuild
  have hnames : (([⟨"Gone", false⟩, ⟨"Missing", true⟩, ⟨"Removed", true⟩, ⟨"Denied", true⟩] :
      List VariantDecl).map VariantDecl.name).Nodup := by decide
  exact ⟨s, _, hs, hvariants, hnames, errors_fit hs hvariants hnames, hcodes⟩

end TransportGen.Artifact
