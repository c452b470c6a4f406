import TransportGen.Proofs.Directive.Method
import TransportGen.Service.Binding

/-!
# Where parameters travel

`Bound` says where a parameter travels and under which key, given the variables of the template and
the directives of the method. Each binding that is built is bound (`bound_of_bindParam`), and no
variable or directive is left without its parameter (`bindParams_ok`).
-/

namespace TransportGen

/-! ## The last one that fits -/

section Last

variable {α : Type} {p : α → Bool} {xs : List α}

theorem find?_reverse_eq : xs.reverse.find? p = (xs.filter p).getLast? := by
  rw [← List.head?_filter, List.filter_reverse, List.head?_reverse]

theorem isSome_getLast?_filter : (xs.filter p).getLast?.isSome = true ↔ ∃ x ∈ xs, p x = true := by
  simp

end Last

/-! ## One parameter -/

/-- A parameter travels in the path, the query or a header if the template or a directive names it
there, and otherwise in the body; its key is its name, or what the last directive gives it. -/
structure Bound (vars : List String) (queries : List QueryDirective)
    (headers : List HeaderDirective) (tags : List (String × String)) (p : ParameterBinding) :
    Prop where
  path_iff : p.source = .path ↔ p.name ∈ vars
  query_iff : p.source = .query ↔ ∃ q ∈ queries, q.param = p.name
  header_iff : p.source = .header ↔ ∃ h ∈ headers, h.param = p.name
  body_iff : p.source = .body ↔ p.name ∉ vars ∧ (∀ q ∈ queries, q.param ≠ p.name) ∧
    ∀ h ∈ headers, h.param ≠ p.name
  key : some p.key = match p.source with
    | .path => some p.name
    | .query => (queries.filter (·.param = p.name)).getLast?.map (·.key)
    | .header => (headers.filter (·.param = p.name)).getLast?.map (·.name)
    | .body => some (((tags.filter (·.1 = p.name)).getLast?.map (·.2)).getD p.name)
  required : p.source = .path → p.isOptional = false

theorem bound_of_source {vars : List String} {queries : List QueryDirective}
    {headers : List HeaderDirective} {tags : List (String × String)} {p : ParameterBinding}
    (hpath : p.source = .path ↔ p.name ∈ vars)
    (hquery : p.source = .query ↔ (queries.filter (·.param = p.name)).getLast?.isSome = true)
    (hheader : p.source = .header ↔ (headers.filter (·.param = p.name)).getLast?.isSome = true)
    (hkey : some p.key = match p.source with
      | .path => some p.name
      | .query => (queries.filter (·.param = p.name)).getLast?.map (·.key)
      | .header => (headers.filter (·.param = p.name)).getLast?.map (·.name)
      | .body => some (((tags.filter (·.1 = p.name)).getLast?.map (·.2)).getD p.name))
    (hrequired : p.source = .path → p.isOptional = false) :
    Bound vars queries headers tags p := by
  simp only [isSome_getLast?_filter, decide_eq_true_eq] at hquery hheader
  refine ⟨hpath, hquery, hheader, ?_, hkey, hrequired⟩
  have hqueries : (∀ q ∈ queries, q.param ≠ p.name) ↔ ¬p.source = .query := by
    rw [hquery]
    simp
  have hheaders : (∀ h ∈ headers, h.param ≠ p.name) ↔ ¬p.source = .header := by
    rw [hheader]
    simp
  rw [← hpath, hqueries, hheaders]
  cases p.source <;> simp

/-- **One parameter.** It keeps its name and type, and travels where the template or a directive
says. -/
theorem bound_of_bindParam {d : MethodDirectives} {vars : List String} {p : ParamDecl}
    {b : ParameterBinding} {tags : List (String × String)} (htags : d.jsonTags = Table.ofList tags)
    (h : bindParam d vars p = .ok b) :
    b.name = p.name ∧ b.type = p.type ∧ Bound vars d.queries d.headers tags b := by
  simp only [bindParam, find?_reverse_eq, htags, Table.get?_ofList] at h
  cases hvar : vars.contains p.name <;>
    cases hquery : (d.queries.filter (·.param = p.name)).getLast? <;>
      cases hheader : (d.headers.filter (·.param = p.name)).getLast? <;>
        simp only [hvar, hquery, hheader, pure_bind, check_bind_eq_ok] at h
  all_goals simp only [List.contains_eq_mem, decide_eq_true_eq, decide_eq_false_iff_not] at hvar
  case true.none.none =>
    obtain ⟨-, hrequired, h⟩ := h
    cases h
    have hrequired : (optionInner? p.type).isSome = false := by simpa using hrequired
    refine ⟨rfl, rfl, bound_of_source ?_ ?_ ?_ rfl fun _ => hrequired⟩
    all_goals simp [hvar, hquery, hheader]
  case false.some.none q =>
    obtain ⟨-, -, h⟩ := h
    cases h
    refine ⟨rfl, rfl, bound_of_source ?_ ?_ ?_ ?_ ?_⟩
    all_goals simp [hvar, hquery, hheader]
  case false.none.some header =>
    obtain ⟨-, -, h⟩ := h
    cases h
    refine ⟨rfl, rfl, bound_of_source ?_ ?_ ?_ ?_ ?_⟩
    all_goals simp [hvar, hquery, hheader]
  case false.none.none =>
    obtain ⟨-, -, h⟩ := h
    cases h
    refine ⟨rfl, rfl, bound_of_source ?_ ?_ ?_ rfl ?_⟩
    all_goals simp [hvar, hquery, hheader]
  all_goals exact (throw_bind_ne_ok h).elim

/-! ## All parameters -/

/-- A search for an exception that finds none. -/
theorem forall_of_find?_not {α : Type} {p : α → Bool} {xs : List α}
    (h : ∀ x, xs.find? (! p ·) = some x → False) : ∀ x ∈ xs, p x = true := by
  intro x hx
  have hnone := Option.eq_none_iff_forall_ne_some.2 h
  simpa using List.find?_eq_none.1 hnone x hx

/-- What the bindings of a method satisfy together. -/
structure AllBound (params : List ParamDecl) (vars : List String) (queries : List QueryDirective)
    (headers : List HeaderDirective) (tags : List (String × String))
    (bindings : List ParameterBinding) : Prop where
  declared : List.Forall₂ (fun p b => b.name = p.name ∧ b.type = p.type) params bindings
  bound : ∀ b ∈ bindings, Bound vars queries headers tags b
  vars : ∀ v ∈ vars, ∃ p ∈ params, p.name = v
  queries : ∀ q ∈ queries, ∃ p ∈ params, p.name = q.param
  headers : ∀ h ∈ headers, ∃ p ∈ params, p.name = h.param
  tags : ∀ tag ∈ tags, ∃ b ∈ bindings, b.name = tag.1 ∧ b.source = .body

/-- **All parameters.** Nothing that names a parameter is left over. -/
theorem allBound_of_bindParams {params : List ParamDecl} {d : MethodDirectives}
    {vars : List String} {bindings : List ParameterBinding} {tags : List (String × String)}
    (htags : d.jsonTags = Table.ofList tags) (h : bindParams params d vars = .ok bindings) :
    AllBound params vars d.queries d.headers tags bindings := by
  simp only [bindParams] at h
  split at h
  · exact (throw_bind_ne_ok h).elim
  rename_i hvars
  split at h
  · exact (throw_bind_ne_ok h).elim
  rename_i hqueries
  split at h
  · exact (throw_bind_ne_ok h).elim
  rename_i hheaders
  obtain ⟨bs, hbs, h⟩ := bind_eq_ok.1 h
  split at h
  · exact (throw_bind_ne_ok h).elim
  rename_i hfields
  cases h
  have hall := mapM_eq_ok_iff.1 hbs
  have hbound := hall.imp fun _ _ => bound_of_bindParam htags
  refine ⟨hbound.imp fun _ _ h => ⟨h.1, h.2.1⟩, fun b hb => ?_, ?_, ?_, ?_, fun tag htag => ?_⟩
  · obtain ⟨_, -, -, -, h⟩ := exists_of_mem_right hbound hb
    exact h
  · simpa using forall_of_find?_not hvars
  · simpa using forall_of_find?_not hqueries
  · simpa using forall_of_find?_not hheaders
  · have hkey : tag.1 ∈ d.jsonTags.keys := by
      rw [htags, Table.mem_keys_ofList]
      exact ⟨tag, htag, rfl⟩
    simpa using forall_of_find?_not hfields tag.1 hkey

/-- A body that is not JSON is at most one parameter, of a string or byte type, and no parameter has
a JSON name. -/
theorem checkRawBody_ok {contentType : String} {d : MethodDirectives}
    {bindings : List ParameterBinding} {tags : List (String × String)}
    (htags : d.jsonTags = Table.ofList tags) (h : checkRawBody contentType d bindings = .ok ())
    (hraw : isJsonType contentType = false) :
    (bindings.filter (·.source = .body)).length ≤ 1 ∧
      (∀ b ∈ bindings, b.source = .body → isTextType b.type = true ∨ isBytesType b.type = true) ∧
      tags = [] := by
  have hempty : (¬(!d.jsonTags.isEmpty) = true) → tags = [] := by
    rw [htags, Table.isEmpty_ofList]
    simp
  simp only [checkRawBody, hraw, Bool.false_eq_true, if_false, check_bind_eq_ok] at h
  obtain ⟨hlength, h⟩ := h
  have hbody : ∀ b, b ∈ bindings.filter (·.source = .body) ↔ b ∈ bindings ∧ b.source = .body := by
    simp
  simp only [← and_imp, ← hbody]
  cases hbodies : bindings.filter (·.source = .body) with
  | nil =>
    rw [hbodies, List.head?_nil, check_eq_ok] at h
    exact ⟨Nat.zero_le 1, fun _ h => (List.not_mem_nil h).elim, hempty h⟩
  | cons b rest =>
    rw [hbodies, List.length_cons] at hlength
    have hrest : rest = [] := List.eq_nil_of_length_eq_zero (by omega)
    subst hrest
    simp only [hbodies, List.head?_cons, check_bind_eq_ok, check_eq_ok] at h
    obtain ⟨htype, h⟩ := h
    refine ⟨Nat.le_refl 1, fun b' hb' => ?_, hempty h⟩
    rw [List.mem_singleton.1 hb']
    simpa [Classical.or_iff_not_imp_left] using htype

end TransportGen
