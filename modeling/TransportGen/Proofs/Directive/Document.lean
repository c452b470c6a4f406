import TransportGen.Proofs.Directive.Method
import TransportGen.Proofs.Directive.Order
import TransportGen.Proofs.Server

/-!
# What document directives add up to

The document directives of a doc comment hold the last argument of each keyword, and list all
servers (`DocumentDirectives.Holds`). Those of a method hold title, version and servers only. Laying
directives on others holds the directives of both, the later ones after the others (`Holds.merge`).
-/

namespace TransportGen

variable {α β γ : Type}

/-! ## Parts of a document -/

/-- A field that holds the last argument of a keyword. -/
def Part.last (keyword : String) (get : α → Option String) : Part α String (Option String) where
  keyword
  items := oneItem
  read := .ok
  get
  add _ text := some text

/-- A field that lists the servers. -/
def Part.servers (get : α → List Server) : Part α Server (List Server) where
  keyword := "servers"
  items := oneItem
  read := serverOf
  get
  add := pushServer

/-- A field that directives with a keyword leave alone, whatever their arguments. -/
def Part.kept (keyword : String) (get : α → γ) : Part α String γ where
  keyword
  items := oneItem
  read := .ok
  get
  add value _ := value

theorem Part.itemsIn_eq {part : Part α β γ} (h : part.items = oneItem) (marker : String)
    (lines : List String) :
    part.itemsIn marker lines = argumentsOf part.keyword (directivesIn marker lines) := by
  rw [itemsIn, argumentsOf, directivesIn]
  induction lines.filterMap (Directive.parse marker) with
  | nil => rfl
  | cons d rest ih =>
    rw [List.flatMap_cons, ih, itemsOf]
    by_cases hkey : d.keyword = part.keyword
    · simp [hkey, h, oneItem]
    · simp [hkey]

section Collect

variable {chain : List (Link α)} {marker : String} {state final : α} {lines : List String}

theorem collectFrom_last {keyword : String} {get : α → Option String}
    (hfed : (Part.last keyword get).Fed chain)
    (h : collectFrom chain marker state lines = .ok final) :
    get final = (argumentsOf keyword (directivesIn marker lines)).getLast?.or (get state) := by
  obtain ⟨texts, htexts, hget⟩ := collectFrom_part hfed h
  rw [Part.valuesIn, Part.itemsIn_eq rfl, mapM_eq_ok_iff] at htexts
  have heq := htexts.imp fun _ _ h => Except.ok.inj h
  rw [List.forall₂_eq_eq_eq] at heq
  change argumentsOf keyword (directivesIn marker lines) = texts at heq
  rw [heq]
  exact hget.trans (foldl_last (get state) texts)

theorem collectFrom_servers {get : α → List Server} (hfed : (Part.servers get).Fed chain)
    (h : collectFrom chain marker state lines = .ok final) :
    ∃ servers, (argumentsOf "servers" (directivesIn marker lines)).mapM serverOf = .ok servers ∧
      get final = servers.foldl pushServer (get state) := by
  have hpart := collectFrom_part hfed h
  rw [Part.valuesIn, Part.itemsIn_eq rfl] at hpart
  exact hpart

theorem collectFrom_kept {keyword : String} {get : α → γ} (hfed : (Part.kept keyword get).Fed chain)
    (h : collectFrom chain marker state lines = .ok final) : get final = get state := by
  obtain ⟨texts, -, hget⟩ := collectFrom_part hfed h
  exact hget.trans (List.foldl_fixed texts)

end Collect

/-! ## Document directives -/

/-- The servers that directives give, in their order. -/
def serversOf (ds : List Directive) : Except DirectiveProblem (List Server) :=
  (argumentsOf "servers" ds).mapM serverOf

/-- What document directives hold is what a sequence of directives gives: the last argument of each
keyword, and a list of all servers. -/
structure DocumentDirectives.Holds (document : DocumentDirectives) (ds : List Directive) :
    Prop where
  title : document.title = (argumentsOf "title" ds).getLast?
  version : document.version = (argumentsOf "version" ds).getLast?
  summary : document.summary = (argumentsOf "summary" ds).getLast?
  description : document.description = (argumentsOf "description" ds).getLast?
  servers : ∃ servers, serversOf ds = .ok servers ∧ Lists servers document.servers

/-- Whether a directive of a method is about the document. -/
def Directive.reachesDocument (d : Directive) : Bool :=
  ["title", "version", "servers"].contains d.keyword

theorem argumentsOf_append (keyword : String) (ds more : List Directive) :
    argumentsOf keyword (ds ++ more) = argumentsOf keyword ds ++ argumentsOf keyword more := by
  rw [argumentsOf, List.filter_append, List.map_append]
  rfl

theorem serversOf_append {ds more : List Directive} {servers others : List Server}
    (h : serversOf ds = .ok servers) (hmore : serversOf more = .ok others) :
    serversOf (ds ++ more) = .ok (servers ++ others) := by
  rw [serversOf, mapM_eq_ok_iff] at *
  rw [argumentsOf_append]
  exact List.rel_append h hmore

theorem argumentsOf_filter_of_reaches {keyword : String}
    (h : keyword ∈ ["title", "version", "servers"]) (ds : List Directive) :
    argumentsOf keyword (ds.filter (·.reachesDocument)) = argumentsOf keyword ds := by
  rw [argumentsOf, argumentsOf, List.filter_filter]
  refine congrArg _ (List.filter_congr fun d _ => ?_)
  by_cases hkey : d.keyword = keyword
  · simpa [hkey, Directive.reachesDocument] using h
  · simp [hkey]

theorem argumentsOf_filter_of_not_reaches {keyword : String}
    (h : keyword ∉ ["title", "version", "servers"]) (ds : List Directive) :
    argumentsOf keyword (ds.filter (·.reachesDocument)) = [] := by
  rw [argumentsOf, List.filter_filter, List.map_eq_nil_iff, List.filter_eq_nil_iff]
  intro d _
  by_cases hkey : d.keyword = keyword
  · simpa [hkey, Directive.reachesDocument] using h
  · simp [hkey]

namespace DocumentDirectives

theorem parts_fed :
    (Part.last "title" title).Fed documentChain ∧ (Part.last "version" version).Fed documentChain ∧
      (Part.last "summary" summary).Fed documentChain ∧
      (Part.last "description" description).Fed documentChain ∧
      (Part.servers servers).Fed documentChain := by
  simp only [Part.fed_iff, documentChain, documentLinks, List.forall_mem_cons]
  and_intros
  all_goals first
    | exact Link.single_feeds_other (by decide) fun _ _ => rfl
    | exact Link.feeds_own rfl rfl rfl fun _ _ => rfl
    | exact List.forall_mem_nil _
    | simp [Link.single, Part.last, Part.servers]

/-- The directives of a trait. -/
theorem holds_of_parse {marker : String} {lines : List String} {document : DocumentDirectives}
    (h : parse marker lines = .ok document) : document.Holds (directivesIn marker lines) := by
  obtain ⟨htitle, hversion, hsummary, hdescription, hservers⟩ := parts_fed
  obtain ⟨servers, hread, hlist⟩ := collectFrom_servers hservers h
  refine ⟨?_, ?_, ?_, ?_, servers, hread, ?_⟩
  · exact (collectFrom_last htitle h).trans Option.or_none
  · exact (collectFrom_last hversion h).trans Option.or_none
  · exact (collectFrom_last hsummary h).trans Option.or_none
  · exact (collectFrom_last hdescription h).trans Option.or_none
  · rw [hlist]
    have hnil : Lists [] [] := .self List.nodup_nil
    exact hnil.foldl servers

/-- **Laying directives on others.** -/
theorem Holds.merge {base later : DocumentDirectives} {ds more : List Directive} (h : base.Holds ds)
    (hmore : later.Holds more) : (base.merge later).Holds (ds ++ more) := by
  have hlast : ∀ {keyword : String} {value given : Option String},
      value = (argumentsOf keyword ds).getLast? → given = (argumentsOf keyword more).getLast? →
      (given <|> value) = (argumentsOf keyword (ds ++ more)).getLast? := by
    intro keyword value given hvalue hgiven
    rw [argumentsOf_append, List.getLast?_append, ← hvalue, ← hgiven, Option.orElse_eq_orElse,
      Option.orElse_eq_or]
  obtain ⟨servers, hservers, hlist⟩ := h.servers
  obtain ⟨others, hothers, hentries⟩ := hmore.servers
  exact ⟨hlast h.title hmore.title, hlast h.version hmore.version, hlast h.summary hmore.summary,
    hlast h.description hmore.description, servers ++ others,
    serversOf_append hservers hothers, hlist.merge hentries⟩

end DocumentDirectives

namespace MethodDirectives

theorem documentParts_fed :
    (Part.last "title" (·.document.title)).Fed methodChain ∧
      (Part.last "version" (·.document.version)).Fed methodChain ∧
      (Part.kept "summary" (·.document.summary)).Fed methodChain ∧
      (Part.kept "description" (·.document.description)).Fed methodChain ∧
      (Part.servers (·.document.servers)).Fed methodChain := by
  simp only [Part.fed_iff, methodChain, documentLinks, List.cons_append, List.nil_append,
    List.forall_mem_cons]
  and_intros
  all_goals first
    | exact Link.single_feeds_other (by decide) fun _ _ => rfl
    | exact Link.list_feeds_other (by decide) fun _ _ => rfl
    | exact Link.feeds_own rfl rfl rfl fun _ _ => rfl
    | exact List.forall_mem_nil _
    | simp [Link.single, Link.list, Part.last, Part.servers, Part.kept]

/-- The directives of a method: title, version and servers are about the document, summary and
description are not. -/
theorem holds_document {marker : String} {lines : List String} {d : MethodDirectives}
    (h : parse marker lines = .ok d) :
    d.document.Holds ((directivesIn marker lines).filter (·.reachesDocument)) := by
  obtain ⟨htitle, hversion, hsummary, hdescription, hservers⟩ := documentParts_fed
  obtain ⟨servers, hread, hlist⟩ := collectFrom_servers hservers h
  refine ⟨?_, ?_, ?_, ?_, servers, ?_, ?_⟩
  · rw [argumentsOf_filter_of_reaches (by decide)]
    exact (collectFrom_last htitle h).trans Option.or_none
  · rw [argumentsOf_filter_of_reaches (by decide)]
    exact (collectFrom_last hversion h).trans Option.or_none
  · rw [argumentsOf_filter_of_not_reaches (by decide)]
    exact collectFrom_kept hsummary h
  · rw [argumentsOf_filter_of_not_reaches (by decide)]
    exact collectFrom_kept hdescription h
  · rw [serversOf, argumentsOf_filter_of_reaches (by decide)]
    exact hread
  · rw [hlist]
    have hnil : Lists [] [] := .self List.nodup_nil
    exact hnil.foldl servers

end MethodDirectives

end TransportGen
