import TransportGen.Artifact.Service

/-!
# The names that items define

An item of a generated file is code together with a record of what the code defines. This module
compares the two: exactly one line of the code of an item is the head of a definition, which
stands at the margin, and it defines what the item records (`records_sources`). All other
lines are comments and attributes, stand further in, or close something.
-/

namespace TransportGen

open Artifact

/-! ## Lines -/

/-- Whether a line begins at the margin with a word. -/
def isHead (line : String) : Bool := line.toList.head?.any Char.isAlpha

/-- A line begins with a character. -/
def Begins (c : Char) (line : String) : Prop := line.toList.head? = some c

namespace Begins

variable {c : Char} {line : String}

theorem literal {rest : List Char} : Begins c (String.ofList (c :: rest)) := by simp [Begins]

theorem append (h : Begins c line) (rest : String) : Begins c (line ++ rest) := by
  rw [Begins, String.toList_append, List.head?_append, h]
  rfl

theorem isHead (h : Begins c line) : isHead line = c.isAlpha := by
  rw [TransportGen.isHead, h]
  rfl

end Begins

/-- No line of the code is a head. -/
def Headless (code : Code) : Prop := ∀ line ∈ code, isHead line = false

namespace Headless

variable {code other : Code} {line : String} {c : Char}

theorem nil : Headless [] := nofun

theorem cons (h : Begins c line) (hc : c.isAlpha = false) (hcode : Headless code) :
    Headless (line :: code) :=
  List.forall_mem_cons.2 ⟨h.isHead.trans hc, hcode⟩

theorem append (h : Headless code) (hother : Headless other) : Headless (code ++ other) :=
  List.forall_mem_append.2 ⟨h, hother⟩

theorem indent (code : Code) : Headless (indent code) := by
  intro line hline
  obtain ⟨inner, -, rfl⟩ := List.mem_map.1 hline
  split
  · rename_i hempty
    rw [String.isEmpty_iff.1 hempty]
    decide
  · exact (Begins.append .literal _).isHead

theorem blank : Headless [""] := List.forall_mem_singleton.2 rfl

theorem closed (body : Code) (close : String) :
    Headless (TransportGen.indent body ++ ["\x7d" ++ close]) :=
  (indent body).append (cons (.append .literal _) rfl nil)

theorem filter_eq_nil (h : Headless code) : code.filter isHead = [] :=
  List.filter_eq_nil_iff.2 fun line hline => by simp [h line hline]

end Headless

/-! ## Heads -/

namespace Definition

/-- What may stand before the name of a function. -/
def functionOpenings : List String := ["fn ", "pub fn ", "pub(super) fn ", "pub(super) async fn "]

/-- What may stand before the name of a type. -/
def typeOpenings : List String :=
  ["struct ", "pub struct ", "pub enum ", "pub trait ", "type ", "pub type "]

/-- What may stand before the name. -/
def openings : Definition → List String
  | function _ => functionOpenings
  | constant _ => ["const ", "pub const "]
  | type _ => typeOpenings
  | submodule _ => ["mod ", "pub mod "]
  | use _ => ["use ", "pub use "]
  | anonymous => ["impl"]

/-- The name, or the path that is used. -/
def name : Definition → String
  | function name | constant name | type name | submodule name => name
  | use path => path
  | anonymous => ""

/-- The characters of which one follows the name. -/
def ends : Definition → List Char
  | function _ => ['(', '<']
  | constant _ => [':']
  | type _ => [' ', '<']
  | submodule _ | use _ => [';']
  | anonymous => [' ', '<']

/-- A line is the head of the definition. -/
def HeadedBy (d : Definition) (line : String) : Prop :=
  ∃ opening ∈ d.openings, ∃ c ∈ d.ends, (opening ++ d.name).toList ++ [c] <+: line.toList

namespace HeadedBy

variable {d : Definition} {line : String}

theorem ofFunction {name : String} (opening : String) (c : Char)
    (hopening : opening ∈ functionOpenings) (hc : c ∈ ['(', '<'])
    (hline : (opening ++ name).toList ++ [c] <+: line.toList) : (function name).HeadedBy line :=
  ⟨opening, hopening, c, hc, hline⟩

theorem ofType {name : String} (opening : String) (c : Char)
    (hopening : opening ∈ typeOpenings) (hc : c ∈ [' ', '<'])
    (hline : (opening ++ name).toList ++ [c] <+: line.toList) : (type name).HeadedBy line :=
  ⟨opening, hopening, c, hc, hline⟩

/-- A literal head is compared as a list of characters, which takes no decoding. -/
theorem ofLiteral {opening name rest : List Char} {c : Char}
    (hopening : String.ofList opening ∈ d.openings) (hname : d.name = String.ofList name)
    (hc : c ∈ d.ends) (hline : line = String.ofList (opening ++ (name ++ c :: rest))) :
    d.HeadedBy line :=
  ⟨String.ofList opening, hopening, c, hc, by simp [hline, hname]⟩

theorem append (h : d.HeadedBy line) (rest : String) : d.HeadedBy (line ++ rest) := by
  obtain ⟨opening, hopening, c, hc, hline⟩ := h
  exact ⟨opening, hopening, c, hc, hline.trans (by simp)⟩

theorem isHead (h : d.HeadedBy line) : isHead line = true := by
  have hopenings : ∀ opening ∈ d.openings, ∃ c s, opening.toList = c :: s ∧ c.isAlpha = true := by
    cases d <;> simp [openings, functionOpenings, typeOpenings]
  obtain ⟨opening, hopening, e, -, rest, hline⟩ := h
  obtain ⟨c, s, hstart, hc⟩ := hopenings opening hopening
  simp [TransportGen.isHead, ← hline, hstart, hc]

end HeadedBy

end Definition

/-- An item records what its code defines: one line of the code is a head, and it is the head of the
item's definition. -/
def Item.Records (item : Item) : Prop :=
  ∃ line, item.code.filter isHead = [line] ∧ item.defines.HeadedBy line

namespace Item.Records

variable {d : Definition} {spaced : Bool} {head line : String} {body after : Code}

/-- The head comes after comments and attributes, and before lines that are no heads. -/
theorem ofHead (before : Code) (hbefore : Headless before) (hhead : d.HeadedBy line)
    (hafter : Headless after) : (Item.mk d spaced (before ++ line :: after)).Records := by
  refine ⟨line, ?_, hhead⟩
  rw [List.filter_append, hbefore.filter_eq_nil, List.filter_cons_of_pos hhead.isHead,
    hafter.filter_eq_nil]
  rfl

/-- The head is the only line. -/
theorem ofLine (hhead : d.HeadedBy line) : (Item.mk d spaced [line]).Records :=
  ofHead [] .nil hhead .nil

/-- The head opens a block. -/
theorem ofBlock (before : Code) (hbefore : Headless before)
    (hhead : d.HeadedBy (head ++ " \x7b")) :
    (Item.mk d spaced (before ++ block head body)).Records :=
  ofHead before hbefore hhead (.closed body "")

/-- The head is a literal, and opens a block. -/
theorem ofLiteral (before : Code) {opening name rest : List Char} {c : Char}
    (hbefore : Headless before) (hopening : String.ofList opening ∈ d.openings)
    (hname : d.name = String.ofList name) (hc : c ∈ d.ends)
    (hhead : head = String.ofList (opening ++ (name ++ c :: rest))) :
    (Item.mk d spaced (before ++ block head body)).Records :=
  ofBlock before hbefore ((Definition.HeadedBy.ofLiteral hopening hname hc hhead).append _)

end Item.Records

theorem records_setOff {items : List Item} (h : ∀ item ∈ items, item.Records) :
    ∀ item ∈ setOff items, item.Records := by
  cases items with
  | nil => exact h
  | cons item rest =>
    rw [List.forall_mem_cons] at h
    exact List.forall_mem_cons.2 h

theorem records_moduleFile (path : List String) (doc : String) (modules : List ModuleLine)
    (exports : List String) :
    ∀ item ∈ (moduleFile path doc modules exports).items, item.Records := by
  refine List.forall_mem_append.2 ⟨List.forall_mem_map.2 fun m _ => .ofLine ?_,
    records_setOff (List.forall_mem_map.2 fun path _ => .ofLine ?_)⟩
  · split
    · exact ⟨"pub mod ", .tail _ (.head _), ';', .head _, by simp [Definition.name]⟩
    · exact ⟨"mod ", .head _, ';', .head _, by simp [Definition.name]⟩
  · exact ⟨"pub use ", .tail _ (.head _), ';', .head _, by simp [Definition.name]⟩

/-! ## Servers -/

theorem records_routesItem (summary : String) (methods : List MethodView) :
    (routesItem summary methods).Records := by
  refine .ofHead ["/// " ++ summary ++ ", as `VERB /path`"] ?_ ?_ ?_
  · exact .cons (.append (.append .literal _) _) rfl .nil
  · exact .ofLiteral (.tail _ (.head _)) rfl (.head _) rfl
  · exact (Headless.indent _).append (.cons .literal rfl .nil)

theorem records_routingItems (interface : String) (methods : List MethodView) :
    ∀ item ∈ routingItems interface methods, item.Records := by
  have himpl : Definition.anonymous.HeadedBy "impl<S: " :=
    .ofLiteral (.head _) rfl (.tail _ (.head _)) rfl
  have hmatcher : (Definition.function "match_route").HeadedBy
      "fn match_route(template: &'static str, path: &str) -> " :=
    .ofLiteral (.head _) rfl (.head _) rfl
  simp only [routingItems, List.forall_mem_cons]
  refine ⟨records_routesItem _ _, .ofBlock _ ?_ ?_, .ofBlock [] .nil ?_,
    .ofBlock ["/// Match `path` against a path template, capturing its variables"] ?_ ?_,
    nofun⟩
  · exact .cons (.append (.append .literal _) _) rfl (.cons .literal rfl
      (.cons .literal rfl (.cons .literal rfl .nil)))
  · exact .ofType "pub struct " '<' (by decide) (by decide) (by simp)
  · exact ((((himpl.append _).append _).append _).append _).append _
  · exact .cons .literal rfl .nil
  · exact (hmatcher.append _).append _

theorem records_structItem (derived name : String) {parameters : String}
    (h : parameters = "" ∨ parameters = "<'a>") (fields : List (Option String × String)) :
    (structItem derived name parameters fields).Records := by
  refine .ofBlock ["#[derive(serde::" ++ derived ++ ")]"] ?_ ?_
  · exact .cons (.append (.append .literal _) _) rfl .nil
  · rcases h with rfl | rfl
    · exact .ofType "struct " ' ' (by decide) (by decide) (by simp)
    · exact .ofType "struct " '<' (by decide) (by decide) (by simp)

theorem records_responseItems (derived : String) (m : MethodView) :
    ∀ item ∈ responseItems derived m, item.Records := by
  unfold responseItems
  split
  · exact nofun
  · exact List.forall_mem_singleton.2 (records_structItem _ _ (.inl rfl) _)

theorem records_handlerItem (interface : String) (m : MethodView) :
    (handlerItem interface m).Records := by
  refine .ofHead ["/// Decode a `" ++ m.name ++
    "` request, call the service and encode the outcome"] ?_ ?_ ?_
  · exact .cons (.append (.append .literal _) _) rfl .nil
  · refine .append (.append ?_ interface) ">("
    unfold MethodView.asyncness
    split
    · exact .ofFunction "pub(super) async fn " '<' (by decide) (by decide) (by simp)
    · exact .ofFunction "pub(super) fn " '<' (by decide) (by decide) (by simp)
  · exact (Headless.indent _).append (.cons (.append .literal _) rfl (.closed _ ""))

theorem records_encodeResponseItem (m : MethodView) : (encodeResponseItem m).Records :=
  .ofBlock [] .nil <| .append (.append (.append
    (.ofFunction "fn " '(' (by decide) (by decide) (by simp)) _) _) _

theorem records_serverMethodItems (interface : String) (m : MethodView) :
    ∀ item ∈ serverMethodItems interface m, item.Records := by
  simp only [serverMethodItems, List.forall_mem_append, List.forall_mem_cons]
  refine ⟨⟨?_, records_responseItems _ m⟩, records_handlerItem _ m, records_encodeResponseItem m,
    nofun⟩
  split
  · exact nofun
  · exact List.forall_mem_singleton.2 (records_structItem _ _ (.inl rfl) _)

theorem records_errorResponseItems (errorType : String) :
    ∀ item ∈ errorResponseItems errorType, item.Records := by
  have hhead : (Definition.function "error_response").HeadedBy "fn error_response(err: &" :=
    .ofLiteral (.head _) rfl (.head _) rfl
  unfold errorResponseItems
  split
  · exact nofun
  · exact List.forall_mem_singleton.2 (.ofBlock
      ["/// Error response carrying only the mapped status and its public message"]
      (.cons .literal rfl .nil) (((hhead.append _).append _).append _))

theorem records_serverHelperItems : ∀ item ∈ serverHelperItems, item.Records := by
  have hprivate : "fn " ∈ Definition.functionOpenings := by decide
  have hpublic : "pub(super) fn " ∈ Definition.functionOpenings := by decide
  simp only [serverHelperItems, List.forall_mem_cons]
  refine ⟨?_, ?_, ?_, ?_, ?_, ?_, ?_, ?_, ?_, nofun⟩
  · exact .ofLiteral [] .nil hpublic rfl (.head _) rfl
  · exact .ofLiteral [] .nil hprivate rfl (.head _) rfl
  · exact .ofLiteral [] .nil hprivate rfl (.head _) rfl
  · exact .ofLiteral [] .nil hprivate rfl (.head _) rfl
  · exact .ofLiteral [] .nil hprivate rfl (.head _) rfl
  · exact .ofLiteral [] .nil hprivate rfl (.tail _ (.head _)) rfl
  · exact .ofLiteral [] .nil hprivate rfl (.head _) rfl
  · exact .ofLiteral [] .nil hprivate rfl (.head _) rfl
  · exact .ofLiteral ["/// Decode `%XX` escapes; `+` means space only in query strings"]
      (.cons .literal rfl .nil) hpublic rfl (.head _) rfl

theorem records_serverTransportItems (interface errorType : String) (methods : List MethodView) :
    ∀ item ∈ serverTransportItems interface errorType methods, item.Records := by
  have htype : "pub type " ∈ Definition.typeOpenings := by decide
  have hvars : (Definition.type "PathVars").HeadedBy
      "pub type PathVars = Vec<(&'static str, String)>;" := .ofLiteral htype rfl (.head _) rfl
  simp only [serverTransportItems, List.forall_mem_append, List.forall_mem_cons]
  refine ⟨⟨⟨⟨?_, nofun⟩, ?_⟩, records_errorResponseItems _⟩, records_serverHelperItems⟩
  · exact .ofHead ["/// Variables captured from the request path"]
      (.cons .literal rfl .nil) hvars .blank
  · intro item hitem
    obtain ⟨m, -, hitem⟩ := List.mem_flatMap.1 hitem
    exact records_serverMethodItems interface m item hitem

/-! ## Clients -/

theorem records_clientItems (interface scheme errorType : String) (methods : List MethodView) :
    ∀ item ∈ clientItems interface scheme errorType methods, item.Records := by
  have himpl : Definition.anonymous.HeadedBy "impl<T: HttpTransport> " :=
    .ofLiteral (.head _) rfl (.tail _ (.head _)) rfl
  have huse : (Definition.use "super::transport::HttpTransport").HeadedBy
      "use super::transport::HttpTransport;" := .ofLiteral (.head _) rfl (.head _) rfl
  have hscheme : (Definition.constant "SCHEME").HeadedBy "const SCHEME: &str = \"" :=
    .ofLiteral (.head _) rfl (.head _) rfl
  simp only [clientItems, List.forall_mem_cons]
  refine ⟨.ofLine huse, records_routesItem _ _,
    .ofLine ((hscheme.append _).append _), .ofBlock _ ?_ ?_,
    .ofBlock [] .nil ?_, .ofBlock [] .nil ?_, nofun⟩
  · exact .cons (.append (.append .literal _) _) rfl (.cons .literal rfl (.cons .literal rfl
      (.cons (.append (.append .literal _) _) rfl (.cons .literal rfl .nil))))
  · exact .ofType "pub struct " '<' (by decide) (by decide) (by simp)
  · exact ((himpl.append _).append _).append _
  · exact ((((himpl.append _).append _).append _).append _).append _

theorem records_encodeRequestItem (m : MethodView) : (encodeRequestItem m).Records :=
  .ofBlock [] .nil <| .append (.append (.append
    (.ofFunction "pub(super) fn " '(' (by decide) (by decide) (by simp)) _) _) _

theorem records_decodeResponseItem (m : MethodView) : (decodeResponseItem m).Records :=
  .ofBlock [] .nil <| .append (.append
    (.ofFunction "pub(super) fn " '(' (by decide) (by decide) (by simp)) _) _

theorem records_clientMethodItems (m : MethodView) :
    ∀ item ∈ clientMethodItems m, item.Records := by
  simp only [clientMethodItems, List.forall_mem_append, List.forall_mem_cons]
  refine ⟨⟨?_, records_responseItems _ m⟩, records_encodeRequestItem m,
    records_decodeResponseItem m, nofun⟩
  split
  · exact nofun
  · exact List.forall_mem_singleton.2 (records_structItem _ _ (.inr rfl) _)

theorem records_clientHelperItems (errorType : String) :
    ∀ item ∈ clientHelperItems errorType, item.Records := by
  have hprivate : "fn " ∈ Definition.functionOpenings := by decide
  have herror : (Definition.function "decode_error").HeadedBy
      "fn decode_error(status: u16, body: &[u8]) -> " := .ofLiteral hprivate rfl (.head _) rfl
  simp only [clientHelperItems, List.forall_mem_cons]
  refine ⟨?_, ?_, ?_, nofun⟩
  · exact .ofBlock [] .nil ((herror.append _).append _)
  · exact .ofLiteral [] .nil hprivate rfl (.head _) rfl
  · exact .ofLiteral ["/// Escape everything but RFC 3986 unreserved characters"]
      (.cons .literal rfl .nil) hprivate rfl (.head _) rfl

theorem records_clientTransportItems (errorType : String) (methods : List MethodView) :
    ∀ item ∈ clientTransportItems errorType methods, item.Records := by
  have himpl : Definition.anonymous.HeadedBy
      "impl<T: HttpTransport + ?Sized> HttpTransport for &T" :=
    .ofLiteral (.head _) rfl (.tail _ (.head _)) rfl
  simp only [clientTransportItems, List.forall_mem_append, List.forall_mem_cons]
  refine ⟨⟨⟨?_, ?_, nofun⟩, ?_⟩, records_clientHelperItems errorType⟩
  · exact .ofBlock ["/// Sends one request and returns the response, whatever its status"]
      (.cons .literal rfl .nil) (.ofType "pub trait " ' ' (by decide) (by decide) (by simp))
  · exact .ofHead [] .nil (himpl.append _) ((Headless.closed _ "").append .blank)
  · intro item hitem
    obtain ⟨m, -, hitem⟩ := List.mem_flatMap.1 hitem
    exact records_clientMethodItems m item hitem

/-! ## Errors -/

theorem records_encodeErrorItems (errorType : String) (mappings : List ErrorMapping) :
    ∀ item ∈ encodeErrorItems errorType mappings, item.Records := by
  have hunmapped : (Definition.constant "UNMAPPED").HeadedBy
      "pub const UNMAPPED: (u16, &str) = (500, \"Internal Server Error\");" :=
    .ofLiteral (.tail _ (.head _)) rfl (.head _) rfl
  have hpublic : "pub fn " ∈ Definition.functionOpenings := by decide
  have hencode : (Definition.function "encode").HeadedBy "pub fn encode(err: &" :=
    .ofLiteral hpublic rfl (.head _) rfl
  have hcomment : Headless ["/// Status code and caller-safe message for an error", "///",
      "/// Only the status and its canonical reason leave the server; unmapped errors",
      "/// become an opaque [`UNMAPPED`]."] :=
    .cons .literal rfl (.cons .literal rfl (.cons .literal rfl (.cons .literal rfl .nil)))
  simp only [encodeErrorItems, List.forall_mem_cons]
  refine ⟨?_, ?_, nofun⟩
  · exact .ofHead ["/// Answer for errors without a status mapping"]
      (.cons .literal rfl .nil) hunmapped .nil
  · split
    · exact .ofLiteral _ hcomment hpublic rfl (.tail _ (.head _)) rfl
    · exact .ofBlock _ hcomment ((hencode.append _).append _ |>.append _)

theorem records_decodeItems (errorType : String) (mappings : List ErrorMapping) :
    ∀ item ∈ decodeItems errorType mappings, item.Records := by
  have hpublic : "pub fn " ∈ Definition.functionOpenings := by decide
  have hdecode : (Definition.function "decode").HeadedBy
      "pub fn decode(status: u16, body: &[u8]) -> Result<" := .ofLiteral hpublic rfl (.head _) rfl
  have hcomment : Headless ["/// Typed error for a failed response", "///",
      "/// A status mapped to a fieldless variant decodes to it; anything else comes",
      "/// back as [`ClientError::Status`]."] :=
    .cons .literal rfl (.cons .literal rfl (.cons .literal rfl (.cons .literal rfl .nil)))
  unfold decodeItems
  split
  · exact nofun
  · exact List.forall_mem_singleton.2
      (.ofBlock _ hcomment (((hdecode.append _).append _).append _))

theorem records_decodeErrorItems (errorType : String) (mappings : List ErrorMapping) :
    ∀ item ∈ decodeErrorItems errorType mappings, item.Records := by
  have hdisplay : Definition.anonymous.HeadedBy "impl std::fmt::Display for ClientError" :=
    .ofLiteral (.head _) rfl (.head _) rfl
  have herror : Definition.anonymous.HeadedBy "impl std::error::Error for ClientError \x7b\x7d" :=
    .ofLiteral (.head _) rfl (.head _) rfl
  simp only [decodeErrorItems, List.forall_mem_append, List.forall_mem_cons]
  refine ⟨⟨?_, ?_, .ofLine herror, nofun⟩, records_decodeItems errorType mappings⟩
  · exact .ofBlock _ (.cons .literal rfl (.cons .literal rfl .nil))
      (.ofType "pub enum " ' ' (by decide) (by decide) (by simp))
  · exact .ofBlock [] .nil (hdisplay.append _)

/-! ## Decorators -/

theorem records_loggingItems (interface : String) (methods : List MethodView) :
    ∀ item ∈ loggingItems interface methods, item.Records := by
  have hself : Definition.anonymous.HeadedBy "impl<S> " :=
    .ofLiteral (.head _) rfl (.tail _ (.head _)) rfl
  have himpl : Definition.anonymous.HeadedBy "impl<S: " :=
    .ofLiteral (.head _) rfl (.tail _ (.head _)) rfl
  simp only [loggingItems, List.forall_mem_cons]
  refine ⟨.ofBlock _ ?_ ?_, .ofBlock [] .nil ?_, .ofBlock [] .nil ?_, nofun⟩
  · exact .cons (.append (.append .literal _) _) rfl (.cons .literal rfl
      (.cons .literal rfl (.cons .literal rfl .nil)))
  · exact .ofType "pub struct " '<' (by decide) (by decide) (by simp)
  · exact ((hself.append _).append _).append _
  · exact ((((((himpl.append _).append _).append _).append _).append _).append _).append _

theorem records_counterItems : ∀ item ∈ counterItems, item.Records := by
  have himpl : Definition.anonymous.HeadedBy "impl MethodCounters" :=
    .ofLiteral (.head _) rfl (.head _) rfl
  simp only [counterItems, List.forall_mem_cons]
  refine ⟨.ofBlock _ (.cons .literal rfl (.cons .literal rfl .nil)) ?_,
    .ofBlock [] .nil (himpl.append _), nofun⟩
  exact .ofType "pub struct " ' ' (by decide) (by decide) (by simp)

theorem records_countersItems (interface : String) (methods : List MethodView) :
    ∀ item ∈ countersItems interface methods, item.Records := by
  have himpl : Definition.anonymous.HeadedBy "impl " := ⟨"impl", .head _, ' ', .head _, by decide⟩
  simp only [countersItems, List.forall_mem_cons]
  refine ⟨.ofBlock _ ?_ ?_, .ofBlock [] .nil ?_, .ofBlock [] .nil ?_, nofun⟩
  · exact .cons (.append (.append .literal _) _) rfl (.cons .literal rfl .nil)
  · exact .ofType "pub struct " ' ' (by decide) (by decide) (by simp)
  · exact (himpl.append _).append _
  · exact (((himpl.append _).append _).append _).append _

theorem records_instrumentingItems (interface : String) (methods : List MethodView) :
    ∀ item ∈ instrumentingItems interface methods, item.Records := by
  have harc : Definition.anonymous.HeadedBy "impl<M: " :=
    .ofLiteral (.head _) rfl (.tail _ (.head _)) rfl
  have hself : Definition.anonymous.HeadedBy "impl<S, M> " :=
    .ofLiteral (.head _) rfl (.tail _ (.head _)) rfl
  have himpl : Definition.anonymous.HeadedBy "impl<S: " :=
    .ofLiteral (.head _) rfl (.tail _ (.head _)) rfl
  simp only [instrumentingItems, List.forall_mem_append, List.forall_mem_cons]
  refine ⟨⟨⟨⟨?_, .ofBlock [] .nil ?_, nofun⟩, records_counterItems⟩,
    records_countersItems _ _⟩, .ofBlock _ ?_ ?_, .ofBlock [] .nil ?_,
    .ofBlock [] .nil ?_, nofun⟩
  · exact .ofBlock ["/// Receives one observation per call"] (.cons .literal rfl .nil)
      (.ofType "pub trait " ' ' (by decide) (by decide) (by simp))
  · exact ((((harc.append _).append _).append _).append _).append _
  · exact .cons (.append (.append .literal _) _) rfl .nil
  · exact .ofType "pub struct " '<' (by decide) (by decide) (by simp)
  · exact ((hself.append _).append _).append _
  · exact ((((((((himpl.append _).append _).append _).append _).append _).append _).append _).append
      _).append _

/-! ## Mocks -/

theorem records_argsItem (m : MethodView) : (argsItem m).Records := by
  refine .ofHead ["/// Arguments recorded for one `" ++ m.name ++ "` call"] ?_ ?_ .nil
  · exact .cons (.append (.append .literal _) _) rfl .nil
  · exact .ofType "pub type " ' ' (by decide) (by decide) (by simp)

theorem records_mockItems (interface : String) (methods : List MethodView) :
    ∀ item ∈ mockItems interface methods, item.Records := by
  have hresponder : (Definition.type "Responder").HeadedBy
      "type Responder<A, R> = Box<dyn Fn(&A) -> R + Send + Sync>;" :=
    .ofLiteral (show "type " ∈ Definition.typeOpenings by decide) rfl (.tail _ (.head _)) rfl
  have himpl : Definition.anonymous.HeadedBy "impl " := ⟨"impl", .head _, ' ', .head _, by decide⟩
  have hlock : "fn " ∈ Definition.functionOpenings := by decide
  simp only [mockItems, List.forall_mem_append, List.forall_mem_cons]
  refine ⟨⟨⟨.ofLine hresponder, nofun⟩,
    records_setOff (List.forall_mem_map.2 fun m _ => records_argsItem m)⟩,
    .ofBlock _ ?_ ?_, .ofBlock [] .nil ?_, .ofBlock [] .nil ?_,
    .ofLiteral [] .nil hlock rfl (.tail _ (.head _)) rfl, nofun⟩
  · exact .cons (.append (.append .literal _) _) rfl (.cons .literal rfl (.cons .literal rfl
      (.cons .literal rfl (.cons .literal rfl .nil))))
  · exact .ofType "pub struct " ' ' (by decide) (by decide) (by simp)
  · exact (himpl.append _).append _
  · exact (((himpl.append _).append _).append _).append _

/-! ## Files -/

theorem records_files (kind : Processor) (s : ServiceSpec) :
    ∀ file ∈ kind.files s, ∀ item ∈ file.items, item.Records := by
  cases kind with
  | httpServer =>
    simp only [Processor.files, serverFiles, List.forall_mem_cons]
    exact ⟨records_moduleFile _ _ _ _, records_routingItems _ _, records_serverTransportItems _ _ _,
      nofun⟩
  | httpClient | httpsClient =>
    simp only [Processor.files, clientFiles, List.forall_mem_cons]
    exact ⟨records_moduleFile _ _ _ _, records_clientItems _ _ _ _,
      records_clientTransportItems _ _, nofun⟩
  | httpErrors =>
    simp only [Processor.files, errorFiles, List.forall_mem_cons]
    exact ⟨records_moduleFile _ _ _ _, records_encodeErrorItems _ _, records_decodeErrorItems _ _,
      nofun⟩
  | metrics => exact List.forall_mem_singleton.2 (records_instrumentingItems _ _)
  | log => exact List.forall_mem_singleton.2 (records_loggingItems _ _)
  | mock => exact List.forall_mem_singleton.2 (records_mockItems _ _)
  | swagger => exact nofun

/-- What holds of the files that only declare modules holds of all files of a service if it holds of
those of each selected kind. -/
theorem ServiceSpec.forall_mem_sources_iff {p : SourceFile → Prop} (s : ServiceSpec)
    (h : p s.rootFile) :
    (∀ file ∈ s.sources, p file) ↔ ∀ kind ∈ s.processors, ∀ file ∈ kind.files s, p file := by
  have hkinds : (∀ file ∈ s.kindFiles, p file) ↔
      ∀ kind ∈ s.processors, ∀ file ∈ kind.files s, p file := by
    rw [ServiceSpec.kindFiles, List.forall_mem_flatMap]
  rw [← hkinds, ServiceSpec.sources]
  split
  · rename_i hempty
    rw [List.isEmpty_iff.1 hempty]
  · rw [List.forall_mem_append, List.forall_mem_singleton, and_iff_left h]

/-- **What the files of a service define** is what their items record. -/
theorem records_sources (s : ServiceSpec) :
    ∀ file ∈ s.sources, ∀ item ∈ file.items, item.Records :=
  (s.forall_mem_sources_iff (records_moduleFile _ _ _ _)).2 fun kind _ => records_files kind s

end TransportGen
