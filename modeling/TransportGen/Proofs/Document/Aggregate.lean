import Mathlib.Data.List.Induction
import Mathlib.Data.List.Nodup
import TransportGen.Document.Aggregate
import TransportGen.Proofs.Service.Parameters
import TransportGen.Proofs.Table

/-!
# What the API document holds

The methods of all services that select the document are added to it one after another.

* `Draft.adds_addMethod`, `Draft.adds_addService`: what one method and one service add.
* `aggregate_cases`: either all route keys are different and the document has the operation of each
  method, or the first method whose key occurred before is a conflict.
* `aggregate_lossless`: what this says about a list of services.
-/

namespace TransportGen

/-! ## Methods that take part -/

theorem Verb.key_inj {v w : Verb} (h : v.key = w.key) : v = w := by
  revert h
  cases v <;> cases w <;> decide

/-- A method that the document describes, with the interface it belongs to. -/
structure Participant where
  interface : String
  method : MethodSpec

namespace Participant

def routeKey (p : Participant) : String := p.method.routeKey

def owner (p : Participant) : String := ownerOf p.interface p.method

def operation (index : TypeIndex) (p : Participant) : ApiOperation :=
  operationOf index p.interface p.method

/-- The path and the key below it at which the operation stands. -/
def place (p : Participant) : String × String := (p.method.uriTemplate, p.method.verb.key)

theorem routeKey_eq_of_place_eq {p q : Participant} (h : p.place = q.place) :
    p.routeKey = q.routeKey := by
  obtain ⟨htemplate, hkey⟩ := Prod.mk.inj h
  have hverb : p.method.verb = q.method.verb := Verb.key_inj hkey
  rw [routeKey, routeKey, MethodSpec.routeKey, MethodSpec.routeKey, hverb, htemplate]

/-- Methods with different route keys have their operations at different places. -/
theorem nodup_place {ps : List Participant} (h : (ps.map routeKey).Nodup) :
    (ps.map place).Nodup := by
  rw [List.Nodup, List.pairwise_map] at h ⊢
  exact h.imp fun hne heq => hne (routeKey_eq_of_place_eq heq)

end Participant

/-- The methods of a service. -/
def ServiceSpec.participants (s : ServiceSpec) : List Participant :=
  s.methods.map (Participant.mk s.interfaceName)

/-- The methods of the services that select the document, in order. -/
def participants (services : List ServiceSpec) : List Participant :=
  (services.filter (·.has .swagger)).flatMap ServiceSpec.participants

/-! ## Operations at their places -/

/-- The operation at a place. -/
def operationAt? (paths : ApiPaths) (place : String × String) : Option ApiOperation :=
  (paths.get? place.1).bind (·.get? place.2)

/-- The number of operations. -/
def countOperations (paths : ApiPaths) : Nat := (paths.values.map Table.size).sum

/-- Puts the operation of a method at its place. -/
def addOperation (index : TypeIndex) (paths : ApiPaths) (p : Participant) : ApiPaths :=
  paths.insert p.method.uriTemplate
    (((paths.get? p.method.uriTemplate).getD ∅).insert p.method.verb.key (p.operation index))

/-- The operations of methods that are added one after another. -/
def pathsOf (index : TypeIndex) (ps : List Participant) : ApiPaths :=
  ps.foldl (addOperation index) ∅

section Places

variable {index : TypeIndex} {paths : ApiPaths} {ps : List Participant}

theorem operationAt?_addOperation (p : Participant) (place : String × String) :
    operationAt? (addOperation index paths p) place =
      if place = p.place then some (p.operation index) else operationAt? paths place := by
  obtain ⟨path, key⟩ := place
  simp only [operationAt?, addOperation, Participant.place, Table.get?_insert, Prod.mk.injEq]
  by_cases hpath : path = p.method.uriTemplate
  · subst hpath
    rw [if_pos rfl, Option.bind_some, Table.get?_insert]
    by_cases hkey : key = p.method.verb.key
    · rw [if_pos hkey, if_pos ⟨rfl, hkey⟩]
    · rw [if_neg hkey, if_neg fun h => hkey h.2]
      cases paths.get? p.method.uriTemplate <;> rfl
  · rw [if_neg hpath, if_neg fun h => hpath h.1]

theorem countOperations_addOperation {p : Participant}
    (h : operationAt? paths p.place = none) :
    countOperations (addOperation index paths p) = countOperations paths + 1 := by
  have hsum := Table.sum_values_insert Table.size paths p.method.uriTemplate
    (((paths.get? p.method.uriTemplate).getD ∅).insert p.method.verb.key (p.operation index))
  have hinner : ((paths.get? p.method.uriTemplate).getD ∅).get? p.method.verb.key = none := by
    simp only [operationAt?, Participant.place] at h
    cases hpath : paths.get? p.method.uriTemplate with
    | none => rfl
    | some operations => simpa [hpath] using h
  rw [Table.size_insert hinner] at hsum
  simp only [countOperations, addOperation]
  cases hpath : paths.get? p.method.uriTemplate with
  | none =>
    rw [hpath] at hsum
    exact hsum
  | some operations =>
    rw [hpath] at hsum
    simp only [Option.map_some, Option.getD_some] at hsum ⊢
    omega

/-- Operations at different places may be added either way round. -/
theorem addOperation_comm {p q : Participant} (h : p.place ≠ q.place) :
    addOperation index (addOperation index paths p) q =
      addOperation index (addOperation index paths q) p := by
  by_cases hpath : p.method.uriTemplate = q.method.uriTemplate
  · have hkey : p.method.verb.key ≠ q.method.verb.key := fun heq => h (Prod.ext hpath heq)
    simp only [addOperation, hpath, Table.get?_insert, if_pos, Option.getD_some,
      Table.insert_insert]
    rw [Table.insert_comm _ hkey]
  · simp only [addOperation, Table.get?_insert, if_neg hpath, if_neg (Ne.symm hpath)]
    exact Table.insert_comm _ hpath _ _

theorem pathsOf_concat (p : Participant) :
    pathsOf index (ps ++ [p]) = addOperation index (pathsOf index ps) p :=
  List.foldl_concat _ _ _ _

theorem operationAt?_pathsOf_eq_none {place : String × String}
    (h : place ∉ ps.map Participant.place) : operationAt? (pathsOf index ps) place = none := by
  induction ps using List.reverseRecOn with
  | nil => rfl
  | append_singleton ps p ih =>
    rw [List.map_append, List.mem_append, not_or] at h
    have hne : place ≠ p.place := fun heq => h.2 (heq ▸ List.mem_singleton_self _)
    rw [pathsOf_concat, operationAt?_addOperation, if_neg hne, ih h.1]

theorem operationAt?_pathsOf (h : (ps.map Participant.place).Nodup) {p : Participant}
    (hp : p ∈ ps) : operationAt? (pathsOf index ps) p.place = some (p.operation index) := by
  induction ps using List.reverseRecOn with
  | nil => cases hp
  | append_singleton ps q ih =>
    rw [pathsOf_concat, operationAt?_addOperation]
    rw [List.map_append, List.nodup_append] at h
    rcases List.mem_append.1 hp with hp | hp
    · have hne : p.place ≠ q.place :=
        h.2.2 _ (List.mem_map_of_mem hp) _ (List.mem_singleton_self _)
      rw [if_neg hne, ih h.1 hp]
    · rw [List.mem_singleton.1 hp, if_pos rfl]

/-- The operations of the paths are those of the methods. -/
theorem operationAt?_pathsOf_eq_some_iff (h : (ps.map Participant.place).Nodup)
    {place : String × String} {operation : ApiOperation} :
    operationAt? (pathsOf index ps) place = some operation ↔
      ∃ p ∈ ps, p.place = place ∧ p.operation index = operation := by
  constructor
  · intro hfound
    have hmem : place ∈ ps.map Participant.place := by
      by_contra hnone
      rw [operationAt?_pathsOf_eq_none hnone] at hfound
      cases hfound
    obtain ⟨p, hp, rfl⟩ := List.mem_map.1 hmem
    rw [operationAt?_pathsOf h hp, Option.some.injEq] at hfound
    exact ⟨p, hp, rfl, hfound⟩
  · rintro ⟨p, hp, rfl, rfl⟩
    exact operationAt?_pathsOf h hp

theorem countOperations_pathsOf (h : (ps.map Participant.place).Nodup) :
    countOperations (pathsOf index ps) = ps.length := by
  induction ps using List.reverseRecOn with
  | nil => rfl
  | append_singleton ps p ih =>
    rw [List.map_append, List.nodup_append] at h
    have hnew : p.place ∉ ps.map Participant.place := fun hmem =>
      h.2.2 _ hmem _ (List.mem_singleton_self _) rfl
    rw [pathsOf_concat, countOperations_addOperation (operationAt?_pathsOf_eq_none hnew), ih h.1,
      List.length_append, List.length_singleton]

/-- The order in which operations are added does not matter. -/
theorem pathsOf_perm {qs : List Participant} (hperm : ps.Perm qs)
    (h : (ps.map Participant.place).Nodup) : pathsOf index ps = pathsOf index qs := by
  refine hperm.foldl_eq' (fun p hp q hq paths => ?_) ∅
  by_cases heq : p = q
  · rw [heq]
  · exact addOperation_comm fun hplace => heq (List.inj_on_of_nodup_map h hp hq hplace)

end Places

/-! ## Conflicts -/

/-- The second method is the first one of a list whose route key occurred before, at the first
method. -/
def Clash (ps : List Participant) (first second : Participant) : Prop :=
  ∃ before after, ps = before ++ second :: after ∧ (before.map Participant.routeKey).Nodup ∧
    first ∈ before ∧ first.routeKey = second.routeKey

theorem Clash.append {ps : List Participant} {first second : Participant}
    (h : Clash ps first second) (more : List Participant) : Clash (ps ++ more) first second := by
  obtain ⟨before, after, rfl, hbefore⟩ := h
  exact ⟨before, after ++ more, by rw [List.append_assoc, List.cons_append], hbefore⟩

theorem Clash.not_nodup {ps : List Participant} {first second : Participant}
    (h : Clash ps first second) : ¬(ps.map Participant.routeKey).Nodup := by
  obtain ⟨before, after, rfl, -, hfirst, hkey⟩ := h
  rw [List.map_append, List.nodup_append]
  intro hnodup
  exact hnodup.2.2 _ (List.mem_map_of_mem hfirst) _ List.mem_cons_self hkey

/-- The failure that a conflict is reported as. -/
def conflictOf (first second : Participant) : Failure :=
  .conflict second.method.route first.owner second.owner

/-! ## Adding methods -/

namespace Draft

/-- A draft that holds the operations of methods without a conflict. -/
structure Covers (index : TypeIndex) (draft : Draft) (ps : List Participant) : Prop where
  nodup : (ps.map Participant.routeKey).Nodup
  owners : ∀ key, draft.owners.get? key =
    (ps.find? (·.routeKey = key)).map Participant.owner
  paths : draft.paths = pathsOf index ps

/-- What comes of adding methods: a draft that covers all of them, or their first conflict. -/
def Adds (index : TypeIndex) (ps : List Participant) : Except Failure Draft → Prop
  | .ok draft => draft.Covers index ps
  | .error failure => ∃ first second, Clash ps first second ∧ failure = conflictOf first second

variable {index : TypeIndex} {draft : Draft} {ps : List Participant}

theorem covers_empty (index : TypeIndex) (info : DocumentInfo) :
    Covers index ⟨info, none, ∅, ∅⟩ [] :=
  ⟨List.nodup_nil, fun _ => rfl, rfl⟩

/-- **One method.** -/
theorem adds_addMethod (h : draft.Covers index ps) (interface : String) (m : MethodSpec) :
    Adds index (ps ++ [⟨interface, m⟩]) (draft.addMethod index interface m) := by
  have howner := h.owners m.routeKey
  have hkey : m.wireContract.routeKey = m.routeKey := rfl
  simp only [addMethod, hkey]
  cases hfound : ps.find? (·.routeKey = m.routeKey) with
  | some first =>
    rw [hfound] at howner
    simp only [howner]
    have hfirst : first.routeKey = m.routeKey := by simpa using List.find?_some hfound
    exact ⟨first, ⟨interface, m⟩,
      ⟨ps, [], rfl, h.nodup, List.mem_of_find?_eq_some hfound, hfirst⟩, rfl⟩
  | none =>
    rw [hfound] at howner
    simp only [howner]
    have hnew : ∀ p ∈ ps, p.routeKey ≠ m.routeKey := by
      simpa using List.find?_eq_none.1 hfound
    refine ⟨?_, fun key => ?_, ?_⟩
    · rw [List.map_append, List.nodup_append]
      refine ⟨h.nodup, List.nodup_singleton _, fun a ha b hb => ?_⟩
      obtain ⟨p, hp, rfl⟩ := List.mem_map.1 ha
      rw [List.mem_singleton.1 hb]
      exact hnew p hp
    · rw [Table.get?_insert, h.owners key, List.find?_append]
      by_cases heq : key = m.routeKey
      · subst heq
        rw [if_pos rfl, hfound]
        simp [Participant.routeKey, Participant.owner]
      · have hne : ¬m.routeKey = key := Ne.symm heq
        rw [if_neg heq]
        simp [Participant.routeKey, hne]
    · rw [pathsOf_concat, ← h.paths]
      rfl

theorem Adds.bind {more : List Participant} {result : Except Failure Draft}
    {next : Draft → Except Failure Draft} (h : Adds index ps result)
    (hnext : ∀ draft : Draft, draft.Covers index ps → Adds index (ps ++ more) (next draft)) :
    Adds index (ps ++ more) (result >>= next) := by
  cases result with
  | ok draft => exact hnext draft h
  | error failure =>
    obtain ⟨first, second, hclash, hfailure⟩ := h
    exact ⟨first, second, hclash.append more, hfailure⟩

/-- **One service.** -/
theorem adds_addService (h : draft.Covers index ps) (s : ServiceSpec) :
    Adds index (ps ++ s.participants) (draft.addService index s) := by
  have hmethods : ∀ (methods : List MethodSpec) (ps : List Participant) (draft : Draft),
      draft.Covers index ps → Adds index (ps ++ methods.map (Participant.mk s.interfaceName))
        (methods.foldlM (addMethod index s.interfaceName) draft) := by
    intro methods
    induction methods with
    | nil =>
      intro ps draft h
      rw [List.map_nil, List.append_nil]
      exact h
    | cons m rest ih =>
      intro ps draft h
      rw [List.foldlM_cons, List.map_cons, List.append_cons]
      exact (adds_addMethod h s.interfaceName m).bind (ih _)
  exact hmethods s.methods ps _ ⟨h.nodup, h.owners, h.paths⟩

theorem adds_services (h : draft.Covers index ps) (services : List ServiceSpec) :
    Adds index (ps ++ services.flatMap ServiceSpec.participants)
      (services.foldlM (addService index) draft) := by
  induction services generalizing draft ps with
  | nil =>
    rw [List.flatMap_nil, List.append_nil]
    exact h
  | cons s rest ih =>
    rw [List.foldlM_cons, List.flatMap_cons, ← List.append_assoc]
    exact (adds_addService h s).bind fun _ => ih

end Draft

/-! ## The document -/

/-- **The document.** Either it has the operations of all methods, whose route keys are different,
or the first conflict is reported. -/
theorem aggregate_cases (index : TypeIndex) (info : DocumentInfo) (services : List ServiceSpec) :
    (∃ d, ApiDocument.aggregate index info services = .ok d ∧
      ((participants services).map Participant.routeKey).Nodup ∧
      d.paths = pathsOf index (participants services)) ∨
    ∃ first second, Clash (participants services) first second ∧
      ApiDocument.aggregate index info services = .error (conflictOf first second) := by
  have hadds := Draft.adds_services (Draft.covers_empty index info)
    (services.filter (·.has .swagger))
  rw [List.nil_append] at hadds
  simp only [ApiDocument.aggregate]
  cases hrun : (services.filter (·.has .swagger)).foldlM (Draft.addService index)
      ⟨info, none, ∅, ∅⟩ with
  | ok draft =>
    rw [hrun] at hadds
    exact Or.inl ⟨_, rfl, hadds.nodup, hadds.paths⟩
  | error failure =>
    rw [hrun] at hadds
    obtain ⟨first, second, hclash, rfl⟩ := hadds
    exact Or.inr ⟨first, second, hclash, rfl⟩

theorem aggregate_eq_ok {index : TypeIndex} {info : DocumentInfo} {services : List ServiceSpec}
    {d : ApiDocument} (h : ApiDocument.aggregate index info services = .ok d) :
    ((participants services).map Participant.routeKey).Nodup ∧
      d.paths = pathsOf index (participants services) := by
  rcases aggregate_cases index info services with ⟨d', hok, hfacts⟩ | ⟨_, _, -, herror⟩
  · rw [h] at hok
    cases hok
    exact hfacts
  · rw [h] at herror
    cases herror

theorem exists_aggregate {services : List ServiceSpec}
    (h : ((participants services).map Participant.routeKey).Nodup) (index : TypeIndex)
    (info : DocumentInfo) : ∃ d, ApiDocument.aggregate index info services = .ok d := by
  rcases aggregate_cases index info services with ⟨d, hok, -⟩ | ⟨_, _, hclash, -⟩
  · exact ⟨d, hok⟩
  · exact (hclash.not_nodup h).elim

theorem operationCount_eq (d : ApiDocument) : d.operationCount = countOperations d.paths := by
  have hlength : ∀ operations : Table String ApiOperation,
      operations.values.length = operations.size := fun _ => List.length_map _
  rw [ApiDocument.operationCount, List.length_flatMap]
  simp only [hlength, countOperations]

/-- The operation of a method is found under its request method and template. -/
theorem operation?_of_mem {index : TypeIndex} {info : DocumentInfo} {services : List ServiceSpec}
    {d : ApiDocument} (h : ApiDocument.aggregate index info services = .ok d) {p : Participant}
    (hp : p ∈ participants services) :
    d.operation? p.method.verb.name p.method.uriTemplate = some (p.operation index) := by
  obtain ⟨hnodup, hpaths⟩ := aggregate_eq_ok h
  have hverb : String.ofList (Text.lowerAscii p.method.verb.name.toList) = p.method.verb.key := by
    cases p.method.verb <;> decide
  rw [ApiDocument.operation?, hverb, hpaths]
  exact operationAt?_pathsOf (Participant.nodup_place hnodup) hp

/-- **Aggregation loses no operation and reports exactly the conflicts.** There is a document if and
only if the route keys of all methods are different. Then it has one operation for each method, at
the method's own place, and the same operations whatever the order of the services. Otherwise the
first method whose route key occurred before is reported, together with the earlier one. -/
theorem aggregate_lossless (index : TypeIndex) (info : DocumentInfo)
    (services : List ServiceSpec) :
    ((∃ d, ApiDocument.aggregate index info services = .ok d) ↔
      ((participants services).map Participant.routeKey).Nodup) ∧
    (∀ d, ApiDocument.aggregate index info services = .ok d →
      d.operationCount = (participants services).length ∧
      (∀ p ∈ participants services,
        d.operation? p.method.verb.name p.method.uriTemplate = some (p.operation index)) ∧
      ∀ others, services.Perm others →
        ∃ d', ApiDocument.aggregate index info others = .ok d' ∧ d'.paths = d.paths) ∧
    ∀ failure, ApiDocument.aggregate index info services = .error failure →
      ∃ first second, Clash (participants services) first second ∧
        failure = .conflict second.method.route first.owner second.owner := by
  refine ⟨⟨fun ⟨d, h⟩ => (aggregate_eq_ok h).1, fun h => exists_aggregate h index info⟩,
    fun d h => ?_, fun failure h => ?_⟩
  · obtain ⟨hnodup, hpaths⟩ := aggregate_eq_ok h
    have hplaces := Participant.nodup_place hnodup
    refine ⟨?_, fun p hp => operation?_of_mem h hp, fun others hperm => ?_⟩
    · rw [operationCount_eq, hpaths, countOperations_pathsOf hplaces]
    · have hparts : (participants services).Perm (participants others) :=
        (hperm.filter _).flatMap_right _
      obtain ⟨d', h'⟩ := exists_aggregate ((hparts.map _).nodup_iff.1 hnodup) index info
      exact ⟨d', h', by rw [(aggregate_eq_ok h').2, hpaths, pathsOf_perm hparts hplaces]⟩
  · rcases aggregate_cases index info services with ⟨d, hok, -⟩ | ⟨first, second, hclash, herror⟩
    · rw [h] at hok
      cases hok
    · rw [h] at herror
      cases herror
      exact ⟨first, second, hclash, rfl⟩

/-- A trait with the same path, for another request method. -/
def shelvingTrait : InterfaceDecl :=
  { searchTrait with
    name := "Shelving"
    methods := searchTrait.methods.map fun m => { m with docs := "@gtg method PUT" :: m.docs } }

/-- Two services in either order, and one of them twice. -/
theorem aggregate_lossless_search :
    ∃ s t, ServiceSpec.build {} "@gtg" searchTrait = .ok (some s) ∧
      ServiceSpec.build {} "@gtg" shelvingTrait = .ok (some t) ∧
      (∃ d, ApiDocument.aggregate {} {} [s, t] = .ok d ∧ d.operationCount = 2 ∧
        ∃ d', ApiDocument.aggregate {} {} [t, s] = .ok d' ∧ d'.paths = d.paths) ∧
      ∃ failure, ApiDocument.aggregate {} {} [s, s] = .error failure ∧
        ∃ first second, Clash (participants [s, s]) first second ∧
          failure = .conflict second.method.route first.owner second.owner := by
  have hbuild : (ServiceSpec.build {} "@gtg" searchTrait).toOption.join.any (fun s =>
      (participants [s]).map Participant.routeKey = ["POST /v1/\x7b\x7d"]) = true := by
    decide +kernel
  have hbuild' : (ServiceSpec.build {} "@gtg" shelvingTrait).toOption.join.any (fun s =>
      (participants [s]).map Participant.routeKey = ["PUT /v1/\x7b\x7d"]) = true := by
    decide +kernel
  obtain ⟨s, hs, hkeys⟩ := (Option.any_eq_true _ _).1 hbuild
  obtain ⟨t, ht, hkeys'⟩ := (Option.any_eq_true _ _).1 hbuild'
  have happend : ∀ a b : ServiceSpec, (participants [a, b]).map Participant.routeKey =
      (participants [a]).map Participant.routeKey ++
        (participants [b]).map Participant.routeKey := by
    intro a b
    rw [← List.map_append, participants, participants, participants, ← List.flatMap_append,
      ← List.filter_append, List.singleton_append]
  have hnodup : ((participants [s, t]).map Participant.routeKey).Nodup := by
    rw [happend, of_decide_eq_true hkeys, of_decide_eq_true hkeys']
    decide
  obtain ⟨d, hd⟩ := (aggregate_lossless {} {} [s, t]).1.2 hnodup
  obtain ⟨hcount, -, hperm⟩ := (aggregate_lossless {} {} [s, t]).2.1 d hd
  refine ⟨s, t, eq_ok_of_toOption_join hs, eq_ok_of_toOption_join ht,
    ⟨d, hd, ?_, hperm [t, s] (.swap t s [])⟩, ?_⟩
  · rw [hcount, ← List.length_map (f := Participant.routeKey), happend, of_decide_eq_true hkeys,
      of_decide_eq_true hkeys']
    rfl
  · cases hss : ApiDocument.aggregate {} {} [s, s] with
    | ok d =>
      have htwice := (aggregate_lossless {} {} [s, s]).1.1 ⟨d, hss⟩
      rw [happend, of_decide_eq_true hkeys] at htwice
      exact absurd htwice (by decide)
    | error failure => exact ⟨failure, rfl, (aggregate_lossless {} {} [s, s]).2.2 failure hss⟩

end TransportGen
