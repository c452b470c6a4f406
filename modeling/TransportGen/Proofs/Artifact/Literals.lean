import TransportGen.Proofs.Service.Routes
import TransportGen.Proofs.Template.Parts
import TransportGen.Proofs.Text.Quoted

/-!
# Literals of generated code

Paths, query keys, header names and JSON names come from directives, and generated code holds them
as string literals. None of them ends its literal early or is taken for another one.

* `quote_append_inj`: a literal and what stands behind it are told apart.
* `UrlPiece.code_injective`, `flatMap_template_urlPieces`: the code that builds a URL gives the
  template back.
* `literals_faithful`: all literals.
-/

namespace TransportGen

open Text (quote quoteBy isEscaped Faithful)

theorem faithful_quote : Faithful quote := Text.faithful_quoteBy isEscaped

/-- What stands behind a literal does not run into it. -/
theorem quote_append_inj {s t a b : String} (h : quote s ++ a = quote t ++ b) : s = t ∧ a = b := by
  have hs := faithful_quote.reads s a.toList
  rw [← String.toList_append, h, String.toList_append, faithful_quote.reads t b.toList] at hs
  obtain ⟨hst, hab⟩ := Prod.mk.inj (Option.some.inj hs)
  exact ⟨String.toList_inj.1 hst.symm, String.toList_inj.1 hab.symm⟩

/-! ## Routes -/

theorem Verb.name_inj {v w : Verb} (h : v.name = w.name) : v = w := by
  revert h
  cases v <;> cases w <;> decide

theorem Verb.blank_not_mem_name (verb : Verb) : ' ' ∉ verb.name.toList := by
  cases verb <;> decide

theorem routeOf_inj {v w : Verb} {a b : String} (h : routeOf v a = routeOf w b) :
    v = w ∧ a = b := by
  have htext : ∀ (verb : Verb) (path : String),
      (routeOf verb path).toList = verb.name.toList ++ ' ' :: path.toList := by
    intro verb path
    rw [routeOf, String.toList_append, String.toList_append, List.append_assoc]
    rfl
  have hroutes := congrArg String.toList h
  rw [htext, htext] at hroutes
  obtain ⟨hverb, hpath⟩ :=
    append_cons_inj v.blank_not_mem_name w.blank_not_mem_name hroutes
  exact ⟨Verb.name_inj (String.toList_inj.1 hverb), String.toList_inj.1 hpath⟩

/-! ## The code that builds a URL -/

namespace UrlPiece

/-- The part of a template that a piece stands for. -/
def template : UrlPiece → List Char
  | .literal text => text.toList
  | .variable name => '\x7b' :: name.toList ++ ['\x7d']

theorem code_literal (text : String) :
    code (.literal text) = "url.push_str(" ++ (quote text ++ ");") := String.append_assoc

theorem code_variable (name : String) :
    code (.variable name) =
      "url.push_str(" ++ ("&percent_encode(&" ++ (name ++ ".to_string()));")) := by
  have hcode : code (.variable name) =
      "url.push_str(" ++ "&percent_encode(&" ++ name ++ ".to_string()));" := rfl
  rw [hcode, String.append_assoc, String.append_assoc]

/-- Behind the call stands a quote for a literal, and something else for a variable. -/
theorem code_literal_ne_variable (text name : String) :
    code (.literal text) ≠ code (.variable name) := by
  intro h
  rw [code_literal, code_variable, String.append_right_inj] at h
  obtain ⟨body, hquoted, -⟩ := faithful_quote.enclosed text
  have hfirst := congrArg (·.toList.head?) h
  simp [hquoted] at hfirst

theorem code_injective : Function.Injective code := by
  intro p q h
  match p, q with
  | .literal text, .literal text' =>
    rw [code_literal, code_literal, String.append_right_inj] at h
    rw [(quote_append_inj h).1]
  | .variable name, .variable name' =>
    rw [code_variable, code_variable, String.append_right_inj, String.append_right_inj,
      String.append_left_inj] at h
    rw [h]
  | .literal text, .variable name => exact absurd h (code_literal_ne_variable text name)
  | .variable name, .literal text => exact absurd h.symm (code_literal_ne_variable text name)

end UrlPiece

theorem flatMap_template_literalPiece (text : List Char) :
    (literalPiece text).flatMap UrlPiece.template = text.reverse := by
  unfold literalPiece
  cases text with
  | nil => rfl
  | cons c text => simp [UrlPiece.template]

theorem flatMap_template_piecesFrom {tokens : List TemplateToken}
    (hfits : ∀ token ∈ tokens, token.Fits) (text : List Char) :
    (piecesFrom text none (spell tokens)).flatMap UrlPiece.template =
      text.reverse ++ spell tokens := by
  induction tokens generalizing text with
  | nil =>
    rw [spell, List.flatMap_nil, List.append_nil]
    exact flatMap_template_literalPiece text
  | cons token tokens ih =>
    rw [List.forall_mem_cons] at hfits
    obtain ⟨htoken, hrest⟩ := hfits
    rw [spell_cons]
    cases token with
    | char c =>
      have hchar : TemplateToken.spell (.char c) ++ spell tokens = c :: spell tokens := rfl
      rw [hchar, piecesFrom_char htoken.1, ih hrest, List.reverse_cons, List.append_assoc]
      rfl
    | var name =>
      have hname : UrlPiece.template (.variable (String.ofList name)) =
          (TemplateToken.var name).spell := by
        rw [UrlPiece.template, String.toList_ofList]
        rfl
      rw [piecesFrom_var htoken, List.flatMap_append, List.flatMap_cons,
        flatMap_template_literalPiece, ih hrest, hname]
      rfl

/-- The pieces of an accepted template make it up. -/
theorem flatMap_template_urlPieces {template : String} {vars : List String}
    (h : pathVariables template = .ok vars) :
    (urlPieces template).flatMap UrlPiece.template = template.toList := by
  obtain ⟨tokens, hfits, hspell, -⟩ := exists_tokens h
  rw [urlPieces, ← hspell, flatMap_template_piecesFrom hfits]
  rfl

/-! ## All literals -/

/-- In generated code, different texts have different literals. -/
structure LiteralsApart : Prop where
  /-- The path that a server matches. -/
  path : ∀ {error error' : Option String} {m m' : MethodSpec},
    quote (MethodView.of error m).path = quote (MethodView.of error' m').path →
      m.uriTemplate = m'.uriTemplate
  /-- The entry in the table of routes. -/
  route : ∀ {error error' : Option String} {m m' : MethodSpec},
    quote (MethodView.of error m).route = quote (MethodView.of error' m').route →
      m.verb = m'.verb ∧ m.uriTemplate = m'.uriTemplate
  /-- The code by which a client builds the URL of a method of a built service. -/
  url : ∀ {index index' : TypeIndex} {marker marker' : String} {decl decl' : InterfaceDecl}
    {s s' : ServiceSpec}, ServiceSpec.build index marker decl = .ok (some s) →
      ServiceSpec.build index' marker' decl' = .ok (some s') →
      ∀ m ∈ s.methods, ∀ m' ∈ s'.methods,
        (MethodView.of s.errorType m).urlPieces.map UrlPiece.code =
            (MethodView.of s'.errorType m').urlPieces.map UrlPiece.code →
          m.uriTemplate = m'.uriTemplate
  /-- The name of a path variable, the key of a query or the name of a header in a request. -/
  key : ∀ {p q : ParameterBinding},
    (ParamView.of p).keyLiteral = (ParamView.of q).keyLiteral → p.key = q.key
  /-- The JSON name of a field in a body. -/
  rename : Function.Injective renameAttribute
  /-- The name of a header that a server sends. -/
  sentHeader : ∀ {h h' : HeaderView}, h.nameLiteral = h'.nameLiteral → h.name = h'.name
  /-- The name of a header that a client reads into a field. -/
  readHeader : ∀ {name name' field field' : String},
    (ClientStep.header name field).code = (ClientStep.header name' field').code →
      name = name' ∧ field = field'

theorem literalsApart : LiteralsApart where
  path h := faithful_quote.injective h
  route h := routeOf_inj (faithful_quote.injective h)
  url := by
    intro _ _ _ _ _ _ s s' hs hs' m hm m' hm' h
    have hpieces : urlPieces m.uriTemplate = urlPieces m'.uriTemplate :=
      UrlPiece.code_injective.list_map h
    rw [← String.toList_inj, ← flatMap_template_urlPieces (pathVariables_of_build hs hm), hpieces,
      flatMap_template_urlPieces (pathVariables_of_build hs' hm')]
  key h := faithful_quote.injective h
  rename := by
    intro name name' h
    unfold renameAttribute at h
    exact faithful_quote.injective
      ((String.append_right_inj _).1 ((String.append_left_inj _).1 h))
  sentHeader h := faithful_quote.injective h
  readHeader := by
    intro name name' field field' h
    unfold ClientStep.code at h
    simp only [String.append_assoc] at h
    obtain ⟨hname, hrest⟩ := quote_append_inj ((String.append_right_inj _).1 h)
    exact ⟨hname, (String.append_left_inj _).1 ((String.append_right_inj _).1 hrest)⟩

/-- **Literals of generated code.** Whatever a directive holds, its literal is closed by its last
character alone and is read back as the text, whichever characters are shown by their code point.
So two paths, keys or header names have one literal in generated code only if they are equal. -/
theorem literals_faithful :
    (∀ escaped, Faithful (quoteBy escaped)) ∧ quoteBy isEscaped = quote ∧ LiteralsApart :=
  ⟨Text.faithful_quoteBy, Text.quoteBy_isEscaped, literalsApart⟩

end TransportGen
