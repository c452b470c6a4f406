import Mathlib.Data.List.Induction
import TransportGen.Proofs.Directive.Chain
import TransportGen.Proofs.Table

/-!
# Parts of the directives of a method

The directives of a method hold the query parameters, headers, JSON names and error statuses of its
doc comment, in the order of the lines (`parse_queries`, `parse_headers`, `parse_jsonTags`,
`parse_responseJsonTags`, `parse_errors`), and the last status of a success
(`parse_responseStatus`).
-/

namespace TransportGen

variable {α β γ : Type}

/-! ## Links that read a value -/

theorem Link.feeds_own {link : Link α} {part : Part α β γ} {put : β → α → α}
    (hkey : link.keyword = part.keyword) (hitems : link.items = part.items)
    (hupdate : link.update = fun item => (part.read item).map put)
    (hput : ∀ value state, part.get (put value state) = part.add (part.get state) value) :
    link.Feeds part where
  items _ := hitems
  own _ item change h := by
    rw [hupdate] at h
    obtain ⟨value, hread, rfl⟩ := map_eq_ok.1 h
    exact ⟨value, hread, hput value⟩
  other h := (h hkey).elim

theorem Link.feeds_other {link : Link α} {part : Part α β γ} {δ : Type}
    {read : String → Except DirectiveProblem δ} {put : δ → α → α}
    (hkey : link.keyword ≠ part.keyword) (hupdate : link.update = fun item => (read item).map put)
    (hput : ∀ value state, part.get (put value state) = part.get state) : link.Feeds part where
  items h := (hkey h).elim
  own h := (hkey h).elim
  other _ item change h := by
    rw [hupdate] at h
    obtain ⟨value, -, rfl⟩ := map_eq_ok.1 h
    exact hput value

theorem Link.single_feeds_other {part : Part α β γ} {δ : Type} {keyword : String}
    {read : String → Except DirectiveProblem δ} {put : δ → α → α} (hkey : keyword ≠ part.keyword)
    (hput : ∀ value state, part.get (put value state) = part.get state) :
    (Link.single keyword read put).Feeds part :=
  Link.feeds_other hkey rfl hput

theorem Link.list_feeds_other {part : Part α β γ} {δ : Type} {keyword : String}
    {read : String → Except DirectiveProblem δ} {put : δ → α → α} (hkey : keyword ≠ part.keyword)
    (hput : ∀ value state, part.get (put value state) = part.get state) :
    (Link.list keyword read put).Feeds part :=
  Link.feeds_other hkey rfl hput

/-! ## Parts of a method -/

theorem foldl_last {δ : Type} (before : Option δ) (values : List δ) :
    values.foldl (fun _ value => some value) before = values.getLast?.or before := by
  cases values using List.reverseRecOn with
  | nil => rfl
  | append_singleton values value =>
    rw [List.foldl_concat, List.getLast?_concat]
    rfl

namespace MethodDirectives

/-- The query parameters. -/
def queryPart : Part MethodDirectives QueryDirective (List QueryDirective) where
  keyword := "query"
  items := listItems
  read := queryOf
  get := queries
  add queries q := queries ++ [q]

/-- The header parameters. -/
def headerPart : Part MethodDirectives HeaderDirective (List HeaderDirective) where
  keyword := "header"
  items := oneItem
  read := headerOf
  get := headers
  add headers h := headers ++ [h]

/-- The JSON names of parameters. -/
def jsonTagPart : Part MethodDirectives (String × String) (Table String String) where
  keyword := "json-tag"
  items := oneItem
  read := jsonTagOf "json-tag"
  get := jsonTags
  add tags tag := tags.insert tag.1 tag.2

/-- The JSON names of fields of the success value. -/
def responseTagPart : Part MethodDirectives (String × String) (Table String String) where
  keyword := "response-json-tag"
  items := oneItem
  read := jsonTagOf "response-json-tag"
  get := responseJsonTags
  add tags tag := tags.insert tag.1 tag.2

/-- The statuses of error variants, by the spelling of an item. -/
def errorsPart : Part MethodDirectives (String × Nat) (Table String Nat) where
  keyword := "errors"
  items := listItems
  read := errorStatusOf
  get := errors
  add errors item := errors.insert item.1 item.2

/-- The status of a success. -/
def statusPart : Part MethodDirectives Nat (Option Nat) where
  keyword := "response-status"
  items := oneItem
  read := statusOf
  get := responseStatus
  add _ status := some status

theorem parts_fed :
    queryPart.Fed methodChain ∧ headerPart.Fed methodChain ∧ jsonTagPart.Fed methodChain ∧
      responseTagPart.Fed methodChain ∧ errorsPart.Fed methodChain ∧
      statusPart.Fed methodChain := by
  simp only [Part.fed_iff, methodChain, documentLinks, List.cons_append, List.nil_append,
    List.forall_mem_cons]
  and_intros
  all_goals first
    | exact Link.single_feeds_other (by decide) fun _ _ => rfl
    | exact Link.list_feeds_other (by decide) fun _ _ => rfl
    | exact Link.feeds_own rfl rfl rfl fun _ _ => rfl
    | exact List.forall_mem_nil _
    | simp [Link.single, Link.list, queryPart, headerPart, jsonTagPart, responseTagPart,
        errorsPart, statusPart]

theorem foldl_concat {δ : Type} (before values : List δ) :
    values.foldl (fun all value => all ++ [value]) before = before ++ values := by
  induction values generalizing before with
  | nil => exact (List.append_nil before).symm
  | cons value rest ih => rw [List.foldl_cons, ih, List.append_assoc, List.singleton_append]

theorem parse_queries {marker : String} {lines : List String} {d : MethodDirectives}
    (h : parse marker lines = .ok d) : queryPart.valuesIn marker lines = .ok d.queries := by
  obtain ⟨values, hvalues, hget⟩ := collectFrom_part parts_fed.1 h
  rw [hvalues, show d.queries = values from hget.trans (foldl_concat [] values)]

theorem parse_headers {marker : String} {lines : List String} {d : MethodDirectives}
    (h : parse marker lines = .ok d) : headerPart.valuesIn marker lines = .ok d.headers := by
  obtain ⟨values, hvalues, hget⟩ := collectFrom_part parts_fed.2.1 h
  rw [hvalues, show d.headers = values from hget.trans (foldl_concat [] values)]

theorem parse_jsonTags {marker : String} {lines : List String} {d : MethodDirectives}
    (h : parse marker lines = .ok d) :
    ∃ tags, jsonTagPart.valuesIn marker lines = .ok tags ∧ d.jsonTags = Table.ofList tags := by
  obtain ⟨tags, htags, hget⟩ := collectFrom_part parts_fed.2.2.1 h
  exact ⟨tags, htags, hget⟩

theorem parse_responseJsonTags {marker : String} {lines : List String} {d : MethodDirectives}
    (h : parse marker lines = .ok d) :
    ∃ tags, responseTagPart.valuesIn marker lines = .ok tags ∧
      d.responseJsonTags = Table.ofList tags := by
  obtain ⟨tags, htags, hget⟩ := collectFrom_part parts_fed.2.2.2.1 h
  exact ⟨tags, htags, hget⟩

theorem parse_errors {marker : String} {lines : List String} {d : MethodDirectives}
    (h : parse marker lines = .ok d) :
    ∃ items, errorsPart.valuesIn marker lines = .ok items ∧ d.errors = Table.ofList items := by
  obtain ⟨items, hitems, hget⟩ := collectFrom_part parts_fed.2.2.2.2.1 h
  exact ⟨items, hitems, hget⟩

theorem parse_responseStatus {marker : String} {lines : List String} {d : MethodDirectives}
    (h : parse marker lines = .ok d) :
    ∃ statuses, statusPart.valuesIn marker lines = .ok statuses ∧
      d.responseStatus = statuses.getLast? := by
  obtain ⟨statuses, hstatuses, hget⟩ := collectFrom_part parts_fed.2.2.2.2.2 h
  refine ⟨statuses, hstatuses, ?_⟩
  have hlast : d.responseStatus = statuses.getLast?.or none :=
    hget.trans (foldl_last none statuses)
  rwa [Option.or_none] at hlast

end MethodDirectives

end TransportGen
