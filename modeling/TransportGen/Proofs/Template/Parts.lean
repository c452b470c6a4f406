import TransportGen.Directive.Chain
import TransportGen.Proofs.Template.Requests
import TransportGen.Proofs.Text.Cutting
import TransportGen.View

/-!
# Parts of a template

A template that is accepted consists of texts without braces and of variables between them, and it
does so in one way only. Three functions read a template, each with a scanner of its own: one lists
its variables, one erases their names, and one writes the code of a client. All three cut it into the
same parts (`readers_agree`).

* `pathVariables_eq_ok_iff`, `TemplateParts.text_injective`: the parts of a template.
* `TemplateParts.shape_eq_iff`: templates of one shape differ in the names of variables alone.
* `pathVariables_append`: a template after another one that lost the slashes at its end.
-/

namespace TransportGen

open TemplateToken

/-! ## Templates in parts -/

/-- The text of variables, each after a literal, and of a last literal. -/
def cutText (cuts : List (List Char × List Char)) (last : List Char) : List Char :=
  (cuts.flatMap fun cut => cut.1 ++ '\x7b' :: cut.2 ++ ['\x7d']) ++ last

/-- A template in parts: its variables, each after a literal, and the literal at the end. Literals
hold no braces and may be empty. -/
structure TemplateParts where
  cuts : List (List Char × List Char)
  last : List Char
  free_cuts : ∀ cut ∈ cuts, ∀ c ∈ cut.1, c ≠ '\x7b' ∧ c ≠ '\x7d'
  free_last : ∀ c ∈ last, c ≠ '\x7b' ∧ c ≠ '\x7d'
  isName : ∀ cut ∈ cuts, Text.isName cut.2 = true

namespace TemplateParts

/-- The template itself. -/
def text (p : TemplateParts) : String := String.ofList (cutText p.cuts p.last)

/-- The literals, one more than there are variables. -/
def literals (p : TemplateParts) : List (List Char) := p.cuts.map Prod.fst ++ [p.last]

/-- The names of the variables. -/
def names (p : TemplateParts) : List String := p.cuts.map fun cut => String.ofList cut.2

/-- The template with the names erased. -/
def shape (p : TemplateParts) : String :=
  String.ofList (cutText (p.cuts.map fun cut => (cut.1, [])) p.last)

/-- The statement that appends a literal to a URL, unless there is nothing to append. -/
def literalLines (literal : List Char) : List String :=
  if literal = [] then [] else ["url.push_str(" ++ Text.quote (String.ofList literal) ++ ");"]

/-- The statement that appends the value of a variable to a URL. -/
def variableLine (name : List Char) : String :=
  "url.push_str(&percent_encode(&" ++ String.ofList name ++ ".to_string()));"

/-- The statements that append all parts. -/
def urlLines (p : TemplateParts) : List String :=
  (p.cuts.flatMap fun cut => literalLines cut.1 ++ [variableLine cut.2]) ++ literalLines p.last

end TemplateParts

/-! ## One way to cut -/

theorem cutText_cons (cut : List Char × List Char) (cuts : List (List Char × List Char))
    (last : List Char) :
    cutText (cut :: cuts) last = cut.1 ++ '\x7b' :: (cut.2 ++ '\x7d' :: cutText cuts last) := by
  simp [cutText]

/-- Texts without braces and names without braces are read off what they make up. -/
theorem cutText_inj {cuts cuts' : List (List Char × List Char)} {last last' : List Char}
    (hcuts : ∀ cut ∈ cuts, '\x7b' ∉ cut.1 ∧ '\x7d' ∉ cut.2) (hlast : '\x7b' ∉ last)
    (hcuts' : ∀ cut ∈ cuts', '\x7b' ∉ cut.1 ∧ '\x7d' ∉ cut.2) (hlast' : '\x7b' ∉ last')
    (h : cutText cuts last = cutText cuts' last') : cuts = cuts' ∧ last = last' := by
  induction cuts generalizing cuts' with
  | nil =>
    cases cuts' with
    | nil => exact ⟨rfl, h⟩
    | cons cut' rest' =>
      have hopen : '\x7b' ∈ last := by
        have hstart : last = cutText (cut' :: rest') last' := h
        rw [hstart, cutText_cons]
        exact List.mem_append_right _ List.mem_cons_self
      exact absurd hopen hlast
  | cons cut rest ih =>
    cases cuts' with
    | nil =>
      have hopen : '\x7b' ∈ last' := by
        have hstart : cutText (cut :: rest) last = last' := h
        rw [← hstart, cutText_cons]
        exact List.mem_append_right _ List.mem_cons_self
      exact absurd hopen hlast'
    | cons cut' rest' =>
      rw [List.forall_mem_cons] at hcuts hcuts'
      rw [cutText_cons, cutText_cons] at h
      obtain ⟨hliteral, hafter⟩ := append_cons_inj hcuts.1.1 hcuts'.1.1 h
      obtain ⟨hname, hrest⟩ := append_cons_inj hcuts.1.2 hcuts'.1.2 hafter
      obtain ⟨rfl, hend⟩ := ih hcuts.2 hcuts'.2 hrest
      exact ⟨congrArg (· :: rest) (Prod.ext hliteral hname), hend⟩

namespace TemplateParts

theorem ext {p q : TemplateParts} (hcuts : p.cuts = q.cuts) (hlast : p.last = q.last) : p = q := by
  cases p
  cases q
  cases hcuts
  cases hlast
  rfl

theorem not_mem_cuts (p : TemplateParts) : ∀ cut ∈ p.cuts, '\x7b' ∉ cut.1 ∧ '\x7d' ∉ cut.2 := by
  intro cut hcut
  constructor
  · intro hopen
    exact (p.free_cuts cut hcut _ hopen).1 rfl
  · intro hclose
    exact (of_mem_isName (p.isName cut hcut) hclose).2.2 rfl

theorem not_mem_last (p : TemplateParts) : '\x7b' ∉ p.last := by
  intro hopen
  exact (p.free_last _ hopen).1 rfl

theorem text_injective : Function.Injective text := by
  intro p q h
  obtain ⟨hcuts, hlast⟩ := cutText_inj p.not_mem_cuts p.not_mem_last q.not_mem_cuts q.not_mem_last
    (String.ofList_injective h)
  exact ext hcuts hlast

theorem literals_eq_iff {p q : TemplateParts} :
    p.literals = q.literals ↔ p.cuts.map Prod.fst = q.cuts.map Prod.fst ∧ p.last = q.last := by
  rw [literals, literals, List.append_singleton_inj]

/-- **Shapes.** Templates of one shape have the same literals. -/
theorem shape_eq_iff {p q : TemplateParts} : p.shape = q.shape ↔ p.literals = q.literals := by
  have herased : ∀ r : TemplateParts, ∀ cut ∈ r.cuts.map fun cut => (cut.1, ([] : List Char)),
      '\x7b' ∉ cut.1 ∧ '\x7d' ∉ cut.2 := by
    intro r cut hcut
    obtain ⟨own, hown, rfl⟩ := List.mem_map.1 hcut
    exact ⟨(r.not_mem_cuts own hown).1, List.not_mem_nil⟩
  have hfirst : ∀ r : TemplateParts,
      (r.cuts.map fun cut => (cut.1, ([] : List Char))).map Prod.fst = r.cuts.map Prod.fst := by
    intro r
    rw [List.map_map]
    rfl
  have hpair : ∀ r : TemplateParts, (r.cuts.map fun cut => (cut.1, ([] : List Char))) =
      (r.cuts.map Prod.fst).map fun literal => (literal, []) := by
    intro r
    rw [List.map_map]
    rfl
  rw [literals_eq_iff]
  constructor
  · intro h
    obtain ⟨hcuts, hlast⟩ := cutText_inj (herased p) p.not_mem_last (herased q) q.not_mem_last
      (String.ofList_injective h)
    have hmapped := congrArg (List.map Prod.fst) hcuts
    rw [hfirst, hfirst] at hmapped
    exact ⟨hmapped, hlast⟩
  · rintro ⟨hcuts, hlast⟩
    rw [shape, shape, hpair p, hpair q, hcuts, hlast]

/-! ## Parts and tokens -/

/-- The tokens of a template in parts. -/
def tokens (p : TemplateParts) : List TemplateToken :=
  (p.cuts.flatMap fun cut => cut.1.map char ++ [var cut.2]) ++ p.last.map char

theorem spell_append (a b : List TemplateToken) :
    TransportGen.spell (a ++ b) = TransportGen.spell a ++ TransportGen.spell b :=
  List.flatMap_append

theorem spell_chars (literal : List Char) : TransportGen.spell (literal.map char) = literal := by
  rw [TransportGen.spell, List.flatMap_map]
  exact List.flatMap_singleton' literal

theorem spell_tokens (p : TemplateParts) : TransportGen.spell p.tokens = p.text.toList := by
  have hcut : ∀ cut : List Char × List Char,
      TransportGen.spell (cut.1.map char ++ [var cut.2]) = cut.1 ++ '\x7b' :: cut.2 ++ ['\x7d'] := by
    intro cut
    rw [spell_append, spell_chars, TransportGen.spell, List.flatMap_singleton, List.append_assoc]
    rfl
  rw [tokens, spell_append, spell_chars, text, String.toList_ofList, cutText, TransportGen.spell,
    List.flatMap_assoc]
  exact congrArg (· ++ p.last) (List.flatMap_congr fun cut _ => hcut cut)

theorem variableNames_tokens (p : TemplateParts) : variableNames p.tokens = p.names := by
  have hchars : ∀ literal : List Char, variableNames (literal.map char) = [] := by
    intro literal
    rw [variableNames, List.filterMap_map]
    exact List.filterMap_eq_nil_iff.2 fun _ _ => rfl
  have hcut : ∀ cut : List Char × List Char,
      variableNames (cut.1.map char ++ [var cut.2]) = [String.ofList cut.2] := by
    intro cut
    rw [variableNames, List.filterMap_append, ← variableNames, hchars]
    rfl
  rw [tokens, variableNames, List.filterMap_append, ← variableNames, ← variableNames, hchars,
    List.append_nil, variableNames, List.filterMap_flatMap, names, List.map_eq_flatMap]
  exact List.flatMap_congr fun cut _ => hcut cut

theorem fits_tokens (p : TemplateParts) : ∀ token ∈ p.tokens, token.Fits := by
  intro token htoken
  rw [tokens, List.mem_append, List.mem_flatMap, List.mem_map] at htoken
  rcases htoken with ⟨cut, hcut, htoken⟩ | ⟨c, hc, rfl⟩
  · rcases List.mem_append.1 htoken with hchar | hvar
    · obtain ⟨c, hc, rfl⟩ := List.mem_map.1 hchar
      exact p.free_cuts cut hcut c hc
    · rw [List.mem_singleton.1 hvar]
      exact p.isName cut hcut
  · exact p.free_last c hc

theorem shape_tokens (p : TemplateParts) :
    p.tokens.flatMap TemplateToken.shape = p.shape.toList := by
  have hchars : ∀ literal : List Char,
      (literal.map char).flatMap TemplateToken.shape = literal := by
    intro literal
    rw [List.flatMap_map]
    exact List.flatMap_singleton' literal
  have hcut : ∀ cut : List Char × List Char,
      (cut.1.map char ++ [var cut.2]).flatMap TemplateToken.shape =
        cut.1 ++ '\x7b' :: [] ++ ['\x7d'] := by
    intro cut
    rw [List.flatMap_append, hchars, List.flatMap_singleton, List.append_assoc]
    rfl
  rw [tokens, List.flatMap_append, hchars, shape, String.toList_ofList, cutText, List.flatMap_map,
    List.flatMap_assoc]
  exact congrArg (· ++ p.last) (List.flatMap_congr fun cut _ => hcut cut)

/-- Tokens that fit are those of parts. -/
theorem exists_tokens_eq {tokens : List TemplateToken} (hfits : ∀ token ∈ tokens, token.Fits) :
    ∃ p : TemplateParts, p.tokens = tokens := by
  induction tokens with
  | nil => exact ⟨⟨[], [], nofun, nofun, nofun⟩, rfl⟩
  | cons token rest ih =>
    rw [List.forall_mem_cons] at hfits
    obtain ⟨hfirst, hrest⟩ := hfits
    obtain ⟨p, rfl⟩ := ih hrest
    cases token with
    | var name =>
      refine ⟨⟨([], name) :: p.cuts, p.last, ?_, p.free_last, ?_⟩, rfl⟩
      · exact List.forall_mem_cons.2 ⟨nofun, p.free_cuts⟩
      · exact List.forall_mem_cons.2 ⟨hfirst, p.isName⟩
    | char c =>
      -- The character belongs to the first literal, which may be the last one too.
      cases hcuts : p.cuts with
      | nil =>
        refine ⟨⟨[], c :: p.last, nofun, ?_, nofun⟩, ?_⟩
        · exact List.forall_mem_cons.2 ⟨hfirst, p.free_last⟩
        · rw [tokens, tokens, hcuts]
          rfl
      | cons cut others =>
        have hfree := p.free_cuts
        have hname := p.isName
        rw [hcuts, List.forall_mem_cons] at hfree hname
        refine ⟨⟨(c :: cut.1, cut.2) :: others, p.last, ?_, p.free_last, ?_⟩, ?_⟩
        · exact List.forall_mem_cons.2 ⟨List.forall_mem_cons.2 ⟨hfirst, hfree.1⟩, hfree.2⟩
        · exact List.forall_mem_cons.2 ⟨hname.1, hname.2⟩
        · rw [tokens, tokens, hcuts]
          rfl

end TemplateParts

/-! ## The variables of a template -/

theorem variablesFrom_name (template : String) {name : List Char} {read s : List Char}
    (hname : Text.isName (read.reverse ++ name) = true) :
    variablesFrom template (some read) (name ++ '\x7d' :: s) =
      (variablesFrom template none s).map (String.ofList (read.reverse ++ name) :: ·) := by
  induction name generalizing read with
  | nil =>
    rw [List.append_nil] at hname ⊢
    rw [List.nil_append, variablesFrom, if_neg (by decide), if_pos rfl, if_pos hname]
  | cons c name ih =>
    obtain ⟨-, hopen, hclose⟩ :=
      of_mem_isName hname (List.mem_append_right _ (List.mem_cons_self (a := c)))
    have hread : read.reverse ++ c :: name = (c :: read).reverse ++ name := by simp
    rw [hread] at hname ⊢
    rw [List.cons_append, variablesFrom, if_neg hopen, if_neg hclose, ih hname]

/-- What tokens spell is accepted, with the variables among them. -/
theorem variablesFrom_spell (template : String) {tokens : List TemplateToken}
    (hfits : ∀ token ∈ tokens, token.Fits) :
    variablesFrom template none (spell tokens) = .ok (variableNames tokens) := by
  induction tokens with
  | nil => rfl
  | cons token rest ih =>
    rw [List.forall_mem_cons] at hfits
    obtain ⟨hfirst, hrest⟩ := hfits
    rw [spell_cons]
    cases token with
    | char c =>
      have hchar : TemplateToken.spell (.char c) ++ spell rest = c :: spell rest := rfl
      rw [hchar, variablesFrom, if_neg hfirst.1, if_neg hfirst.2, ih hrest]
      rfl
    | var name =>
      have hname : Text.isName ([].reverse ++ name) = true := hfirst
      rw [TemplateToken.spell, List.append_assoc, List.cons_append, variablesFrom, if_pos rfl,
        List.singleton_append, variablesFrom_name template hname, ih hrest]
      rfl

theorem pathVariables_of_head {template : String} (h : template.toList.head? = some '/') :
    pathVariables template = variablesFrom template none template.toList := by
  obtain ⟨rest, hrest⟩ := List.head?_eq_some_iff.1 h
  unfold pathVariables
  split
  · rfl
  · rename_i hne
    exact absurd hrest (hne rest)

theorem head?_of_pathVariables {template : String} {vars : List String}
    (h : pathVariables template = .ok vars) : template.toList.head? = some '/' := by
  unfold pathVariables at h
  split at h
  · rename_i rest hrest
    rw [hrest]
    rfl
  · cases h

/-- **Accepted templates.** They begin with a slash and have parts. -/
theorem pathVariables_eq_ok_iff {template : String} {vars : List String} :
    pathVariables template = .ok vars ↔
      template.toList.head? = some '/' ∧
        ∃ p : TemplateParts, p.text = template ∧ p.names = vars := by
  constructor
  · intro h
    obtain ⟨tokens, hfits, hspell, hvars⟩ := exists_tokens h
    obtain ⟨p, rfl⟩ := TemplateParts.exists_tokens_eq hfits
    refine ⟨head?_of_pathVariables h, p, ?_, ?_⟩
    · rw [← String.toList_inj, ← p.spell_tokens, hspell]
    · rw [← p.variableNames_tokens, hvars]
  · rintro ⟨hhead, p, rfl, rfl⟩
    rw [pathVariables_of_head hhead, ← p.spell_tokens, variablesFrom_spell _ p.fits_tokens,
      p.variableNames_tokens]

/-! ## The code of a client -/

theorem code_literalPiece (literal : List Char) :
    (literalPiece literal.reverse).map UrlPiece.code = TemplateParts.literalLines literal := by
  cases literal with
  | nil => rfl
  | cons c rest =>
    have hsome : (c :: rest).reverse.isEmpty = false := by simp
    have hne : c :: rest ≠ [] := List.cons_ne_nil c rest
    rw [literalPiece, hsome, TemplateParts.literalLines, if_neg hne, List.reverse_reverse]
    rfl

theorem piecesFrom_chars {literal : List Char} (h : ∀ c ∈ literal, c ≠ '\x7b' ∧ c ≠ '\x7d')
    (text s : List Char) :
    piecesFrom text none (literal ++ s) = piecesFrom (literal.reverse ++ text) none s := by
  induction literal generalizing text with
  | nil => rfl
  | cons c literal ih =>
    rw [List.forall_mem_cons] at h
    rw [List.cons_append, piecesFrom_char h.1.1, ih h.2, List.reverse_cons, List.append_assoc]
    rfl

theorem TemplateParts.code_urlPieces (p : TemplateParts) :
    (urlPieces p.text).map UrlPiece.code = p.urlLines := by
  obtain ⟨cuts, last, hcuts, hlast, hnames⟩ := p
  rw [urlPieces, text, String.toList_ofList, urlLines]
  induction cuts with
  | nil =>
    have hend : cutText [] last = last ++ [] := (List.append_nil last).symm
    rw [hend, piecesFrom_chars hlast, List.append_nil]
    exact code_literalPiece last
  | cons cut rest ih =>
    rw [List.forall_mem_cons] at hcuts hnames
    have hname : cut.1 ++ '\x7b' :: (cut.2 ++ '\x7d' :: cutText rest last) =
        cut.1 ++ ((TemplateToken.var cut.2).spell ++ cutText rest last) := by
      simp [TemplateToken.spell]
    have hcode : (UrlPiece.variable (String.ofList cut.2)).code = variableLine cut.2 := rfl
    rw [cutText_cons, hname, piecesFrom_chars hcuts.1, List.append_nil, piecesFrom_var hnames.1,
      List.map_append, code_literalPiece, List.map_cons, hcode, ih hcuts.2 hnames.2,
      List.flatMap_cons]
    simp only [List.append_assoc, List.cons_append, List.nil_append]

theorem TemplateParts.routeShape_text (p : TemplateParts) : routeShape p.text = p.shape := by
  rw [← String.toList_inj, toList_routeShape p.fits_tokens p.spell_tokens, p.shape_tokens]

/-! ## A template after another one -/

theorem head?_rdropWhile_append {a b : List Char} (ha : a.head? = some '/')
    (hb : b.head? = some '/') : (a.rdropWhile (· == '/') ++ b).head? = some '/' := by
  rw [List.head?_append]
  cases hdropped : a.rdropWhile (· == '/') with
  | nil => exact hb
  | cons c rest =>
    obtain ⟨after, happend⟩ := List.rdropWhile_prefix (· == '/') (l := a)
    rw [hdropped] at happend
    rw [← happend] at ha
    exact ha

/-- **A template after a prefix.** The prefix loses the slashes at its end, and the variables of both
stand in order. -/
theorem pathVariables_append {a b : String} {vars more : List String}
    (ha : pathVariables a = .ok vars) (hb : pathVariables b = .ok more) :
    ∃ start, pathPrefixOf a = .ok start ∧ start.toList = a.toList.rdropWhile (· == '/') ∧
      pathVariables (start ++ b) = .ok (vars ++ more) := by
  have hstart : pathPrefixOf a = .ok (String.ofList (a.toList.rdropWhile (· == '/'))) := by
    rw [pathPrefixOf, templateOf, ha]
    rfl
  refine ⟨_, hstart, String.toList_ofList, ?_⟩
  obtain ⟨tokens, hfits, hspell, rfl⟩ := exists_tokens ha
  obtain ⟨others, hothers, hspell', rfl⟩ := exists_tokens hb
  have hsplits : ∀ token ∈ tokens, Splits TemplateToken.spell token := by
    intro token htoken
    exact splits_spell (hfits token htoken)
  have htrimmed : a.toList.rdropWhile (· == '/') = spell (tokens.rdropWhile isSlash) := by
    rw [← hspell]
    exact rdropWhile_flatMap hsplits
  have hall : ∀ token ∈ tokens.rdropWhile isSlash ++ others, token.Fits := by
    rw [List.forall_mem_append]
    refine ⟨?_, hothers⟩
    intro token htoken
    exact hfits token ((List.rdropWhile_prefix _ _).subset htoken)
  have htext : (String.ofList (a.toList.rdropWhile (· == '/')) ++ b).toList =
      spell (tokens.rdropWhile isSlash ++ others) := by
    rw [String.toList_append, String.toList_ofList, htrimmed, ← hspell']
    exact List.flatMap_append.symm
  have hnames : variableNames (tokens.rdropWhile isSlash ++ others) =
      variableNames tokens ++ variableNames others := by
    rw [variableNames, List.filterMap_append, ← variableNames, variableNames_rdropWhile]
    rfl
  have hhead : (String.ofList (a.toList.rdropWhile (· == '/')) ++ b).toList.head? = some '/' := by
    rw [String.toList_append, String.toList_ofList]
    exact head?_rdropWhile_append (head?_of_pathVariables ha) (head?_of_pathVariables hb)
  rw [pathVariables_of_head hhead, htext, variablesFrom_spell _ hall, hnames]

/-- **The readers of a template agree.** A template is accepted exactly if it begins with a slash and
consists of literals and variables, which is so in one way only; then its variables are listed in
order, its shape has their names erased, and the code of a client appends each literal that is not
empty and each variable. So templates have one shape exactly if they have the same literals. A
template that follows another one, less the slashes at the end of that one, is accepted with the
variables of both. -/
theorem readers_agree :
    (∀ template vars, pathVariables template = .ok vars ↔ template.toList.head? = some '/' ∧
      ∃ p : TemplateParts, p.text = template ∧ p.names = vars) ∧
    Function.Injective TemplateParts.text ∧
    (∀ p : TemplateParts, routeShape p.text = p.shape ∧
      (urlPieces p.text).map UrlPiece.code = p.urlLines) ∧
    (∀ p q : TemplateParts, routeShape p.text = routeShape q.text ↔ p.literals = q.literals) ∧
    ∀ a b vars more, pathVariables a = .ok vars → pathVariables b = .ok more →
      ∃ start, pathPrefixOf a = .ok start ∧ start.toList = a.toList.rdropWhile (· == '/') ∧
        pathVariables (start ++ b) = .ok (vars ++ more) := by
  refine ⟨?_, TemplateParts.text_injective, ?_, ?_, ?_⟩
  · intro template vars
    exact pathVariables_eq_ok_iff
  · intro p
    exact ⟨p.routeShape_text, p.code_urlPieces⟩
  · intro p q
    rw [p.routeShape_text, q.routeShape_text]
    exact TemplateParts.shape_eq_iff
  · intro a b vars more ha hb
    exact pathVariables_append ha hb

/-- Variables side by side, at the end of a prefix and before a letter that is not ASCII. -/
theorem readers_agree_shelf :
    pathVariables "/v1/\x7bshelf\x7d//" = .ok ["shelf"] ∧
      pathVariables "/\x7ba\x7d\x7bb\x7dé" = .ok ["a", "b"] ∧
      ∃ start, pathPrefixOf "/v1/\x7bshelf\x7d//" = .ok start ∧
        pathVariables (start ++ "/\x7ba\x7d\x7bb\x7dé") = .ok ["shelf", "a", "b"] := by
  have hshelf : pathVariables "/v1/\x7bshelf\x7d//" = .ok ["shelf"] := by decide +kernel
  have hbase : pathVariables "/\x7ba\x7d\x7bb\x7dé" = .ok ["a", "b"] := by decide +kernel
  obtain ⟨-, -, -, -, happend⟩ := readers_agree
  obtain ⟨start, hstart, -, hvars⟩ := happend _ _ _ _ hshelf hbase
  exact ⟨hshelf, hbase, start, hstart, hvars⟩

end TransportGen
