import TransportGen.Directive.Chain
import TransportGen.Proofs.Template.Segments
import TransportGen.Proofs.Text.Percent

/-!
# Paths of a client, matched by a server

A client appends the pieces of a template to a path (`requestPath`), and a server matches the path
against the template, segment by segment (`matchRoute`). The server gets all variables back exactly
if every segment of the template that holds a variable is one variable and nothing else
(`matchRoute_requestPath_iff`).
-/

namespace TransportGen

/-! ## The client -/

/-- The text that a client appends for a piece, given the values of variables. -/
def UrlPiece.sent (values : String → String) : UrlPiece → String
  | .literal text => text
  | .variable name => percentEncode (values name)

/-- The path that a client builds from pieces. -/
def requestPath (values : String → String) (pieces : List UrlPiece) : String :=
  String.join (pieces.map (UrlPiece.sent values))

/-! ## The server -/

/-- Matches the segments of a path against those of a template, and takes a segment in braces for a
variable. -/
def matchSegments : List (List Char) → List (List Char) → Option (List (String × String))
  | [], [] => some []
  | expected :: rest, segment :: others =>
    match inBraces? (String.ofList expected) with
    | some name =>
      (matchSegments rest others).map
        ((name, percentDecode false (String.ofList segment)) :: ·)
    | none => if expected = segment then matchSegments rest others else none
  | _, _ => none

/-- The variables of a path that matches a template, each with its value: what the function
`match_route` of a server computes. -/
def matchRoute (template path : String) : Option (List (String × String)) :=
  matchSegments (segments template.toList) (segments path.toList)

/-- A segment without braces, or one variable in braces. -/
def IsWholeSegment (segment : List Char) : Prop :=
  (∀ c ∈ segment, c ≠ '\x7b' ∧ c ≠ '\x7d') ∨
    ∃ name, (∀ c ∈ name, c ≠ '\x7b' ∧ c ≠ '\x7d') ∧ segment = '\x7b' :: name ++ ['\x7d']

/-! ## What a client sends -/

/-- What a client sends for a token. -/
def TemplateToken.sent (values : String → String) : TemplateToken → List Char
  | .char c => [c]
  | .var name => (percentEncode (values (String.ofList name))).toList

theorem requestPath_append (values : String → String) (a b : List UrlPiece) :
    requestPath values (a ++ b) = requestPath values a ++ requestPath values b := by
  rw [requestPath, List.map_append, String.join_append]
  rfl

theorem requestPath_variable (values : String → String) (name : String) (rest : List UrlPiece) :
    requestPath values (.variable name :: rest) =
      percentEncode (values name) ++ requestPath values rest := by
  rw [requestPath, List.map_cons, String.join_cons]
  rfl

theorem toList_requestPath_literalPiece (values : String → String) (text : List Char) :
    (requestPath values (literalPiece text)).toList = text.reverse := by
  unfold literalPiece
  cases text with
  | nil => rfl
  | cons c text => simp [requestPath, UrlPiece.sent]

theorem toList_requestPath_piecesFrom (values : String → String) {tokens : List TemplateToken}
    (hfits : ∀ token ∈ tokens, token.Fits) (text : List Char) :
    (requestPath values (piecesFrom text none (spell tokens))).toList =
      text.reverse ++ tokens.flatMap (TemplateToken.sent values) := by
  induction tokens generalizing text with
  | nil =>
    rw [List.flatMap_nil, List.append_nil]
    exact toList_requestPath_literalPiece values text
  | cons token tokens ih =>
    rw [List.forall_mem_cons] at hfits
    obtain ⟨htoken, hrest⟩ := hfits
    rw [spell_cons, List.flatMap_cons]
    cases token with
    | char c =>
      have hchar : TemplateToken.spell (.char c) ++ spell tokens = c :: spell tokens := rfl
      rw [hchar, piecesFrom_char htoken.1, ih hrest, List.reverse_cons, List.append_assoc]
      rfl
    | var name =>
      rw [piecesFrom_var htoken, requestPath_append, requestPath_variable]
      simp only [String.toList_append, toList_requestPath_literalPiece, ih hrest]
      rfl

theorem toList_requestPath_urlPieces (values : String → String) {tokens : List TemplateToken}
    {template : String} (hfits : ∀ token ∈ tokens, token.Fits)
    (hspell : spell tokens = template.toList) :
    (requestPath values (urlPieces template)).toList =
      tokens.flatMap (TemplateToken.sent values) := by
  rw [urlPieces, ← hspell, toList_requestPath_piecesFrom values hfits]
  rfl

/-! ## Where a server cuts -/

namespace TemplateToken

theorem splits_char {f : TemplateToken → List Char} {c : Char} (h : f (char c) = [c]) :
    Splits f (char c) := by
  unfold Splits
  split
  · rename_i hslash
    rw [h, show c = '/' by simpa [isSlash] using hslash]
  · rename_i hslash
    rw [h]
    simpa [isSlash] using hslash

theorem splits_spell {token : TemplateToken} (h : token.Fits) : Splits spell token := by
  cases token with
  | char c => exact splits_char rfl
  | var name =>
    refine ⟨List.cons_ne_nil _ _, fun c hc => ?_⟩
    simp only [spell, List.cons_append, List.mem_cons, List.mem_append, List.not_mem_nil,
      or_false] at hc
    rcases hc with rfl | hc | rfl
    · decide
    · exact (of_mem_isName h hc).1
    · decide

theorem splits_sent {values : String → String} {token : TemplateToken}
    (h : ∀ name ∈ token.name?, values name ≠ "") : Splits (sent values) token := by
  cases token with
  | char c => exact splits_char rfl
  | var name =>
    refine ⟨percentEncode_ne_nil (h _ rfl), fun c hc => ?_⟩
    rintro rfl
    exact absurd (isInert_of_mem_percentEncode hc) (by decide)

/-- What is sent for a token holds no brace. -/
theorem no_brace_of_mem_sent {values : String → String} {token : TemplateToken} (h : token.Fits)
    {c : Char} (hc : c ∈ token.sent values) : c ≠ '\x7b' ∧ c ≠ '\x7d' := by
  cases token with
  | char c' =>
    rw [sent, List.mem_singleton] at hc
    rw [hc]
    exact h
  | var name =>
    have hinert := isInert_of_mem_percentEncode hc
    constructor <;>
    · rintro rfl
      exact absurd hinert (by decide)

end TemplateToken

/-- The segments of a template are those of its tokens. -/
theorem segments_spell {tokens : List TemplateToken} {template : String}
    (hfits : ∀ token ∈ tokens, token.Fits) (hspell : spell tokens = template.toList) :
    segments template.toList = (tokenSegments tokens).map spell := by
  rw [← hspell]
  exact segments_flatMap fun token htoken => TemplateToken.splits_spell (hfits token htoken)

/-! ## One segment -/

theorem inBraces?_eq_some_iff {s : List Char} {name : String} :
    inBraces? (String.ofList s) = some name ↔ s = '\x7b' :: name.toList ++ ['\x7d'] := by
  unfold inBraces?
  rw [String.toList_ofList]
  cases h : Text.stripStart? ['\x7b'] s with
  | none =>
    constructor
    · nofun
    · intro hs
      have hstart : ['\x7b'] ++ (name.toList ++ ['\x7d']) = s := hs.symm
      rw [Text.stripStart?_eq_some_iff.2 hstart] at h
      cases h
  | some rest =>
    rw [← Text.stripStart?_eq_some_iff.1 h]
    simp only [Option.map_eq_some_iff, Text.stripEnd?_eq_some_iff, List.cons_append,
      List.nil_append, List.cons.injEq, true_and]
    constructor
    · rintro ⟨inner, rfl, rfl⟩
      rw [String.toList_ofList]
    · intro hrest
      exact ⟨name.toList, hrest.symm, String.ofList_toList⟩

theorem spell_eq_nil {tokens : List TemplateToken} (h : spell tokens = []) : tokens = [] := by
  cases tokens with
  | nil => rfl
  | cons token rest => cases token <;> cases h

/-- A segment that holds no brace is a literal, and any other whole segment is one variable. -/
theorem tokens_of_isWholeSegment {tokens : List TemplateToken}
    (hfits : ∀ token ∈ tokens, token.Fits) (h : IsWholeSegment (spell tokens)) :
    (∀ token ∈ tokens, ∃ c, token = .char c) ∨ ∃ name, tokens = [.var name] := by
  rcases h with hfree | ⟨name, hname, hspell⟩
  · refine Or.inl fun token htoken => ?_
    cases token with
    | char c => exact ⟨c, rfl⟩
    | var name =>
      have hmem : '\x7b' ∈ spell tokens := List.mem_flatMap.2 ⟨_, htoken, List.mem_cons_self⟩
      exact ((hfree _ hmem).1 rfl).elim
  · cases tokens with
    | nil => cases hspell
    | cons token rest =>
      rw [List.forall_mem_cons] at hfits
      rw [spell_cons] at hspell
      cases token with
      | char c =>
        obtain ⟨hc, -⟩ := List.cons.inj hspell
        exact (hfits.1.1 hc).elim
      | var inner =>
        have hclose : '\x7d' ∉ name := fun hmem => (hname _ hmem).2 rfl
        have htail : name ++ '\x7d' :: [] = inner ++ '\x7d' :: spell rest := by
          simpa [TemplateToken.spell] using hspell.symm
        obtain ⟨hinner, -, hrest⟩ :=
          (List.append_cons_inj_of_notMem hclose List.not_mem_nil).1 htail
        refine Or.inr ⟨inner, ?_⟩
        rw [spell_eq_nil hrest.symm]

theorem isWholeSegment_of_inBraces? {segment : List Char} {name : String}
    (h : inBraces? (String.ofList segment) = some name)
    (hname : ∀ c ∈ name.toList, c ≠ '\x7b' ∧ c ≠ '\x7d') : IsWholeSegment segment :=
  Or.inr ⟨name.toList, hname, inBraces?_eq_some_iff.1 h⟩

theorem no_brace_of_eq_sent {values : String → String} {tokens : List TemplateToken}
    (hfits : ∀ token ∈ tokens, token.Fits)
    (h : spell tokens = tokens.flatMap (TemplateToken.sent values)) :
    ∀ c ∈ spell tokens, c ≠ '\x7b' ∧ c ≠ '\x7d' := by
  intro c hc
  rw [h] at hc
  obtain ⟨token, htoken, hc⟩ := List.mem_flatMap.1 hc
  exact TemplateToken.no_brace_of_mem_sent (hfits token htoken) hc

theorem inBraces?_eq_none {segment : List Char} (h : ∀ c ∈ segment, c ≠ '\x7b' ∧ c ≠ '\x7d') :
    inBraces? (String.ofList segment) = none := by
  refine Option.eq_none_iff_forall_ne_some.2 fun name hname => ?_
  have hmem : '\x7b' ∈ segment := inBraces?_eq_some_iff.1 hname ▸ List.mem_cons_self
  exact (h _ hmem).1 rfl

theorem literal_of_chars (values : String → String) {tokens : List TemplateToken}
    (h : ∀ token ∈ tokens, ∃ c, token = TemplateToken.char c) :
    spell tokens = tokens.flatMap (TemplateToken.sent values) ∧ variableNames tokens = [] := by
  induction tokens with
  | nil =>
    rw [List.flatMap_nil]
    exact ⟨rfl, rfl⟩
  | cons token rest ih =>
    rw [List.forall_mem_cons] at h
    obtain ⟨⟨c, rfl⟩, hrest⟩ := h
    obtain ⟨hspell, hnames⟩ := ih hrest
    rw [spell_cons, List.flatMap_cons, hspell, TemplateToken.spell, TemplateToken.sent]
    exact ⟨rfl, hnames⟩

/-! ## All segments -/

section Matching

variable {values : String → String} {segs : List (List TemplateToken)}

/-- If all that a server captures is named like a variable, it met whole segments only. -/
theorem isWholeSegment_of_matchSegments (hfits : ∀ seg ∈ segs, ∀ token ∈ seg, token.Fits)
    {captured : List (String × String)}
    (h : matchSegments (segs.map spell) (segs.map (·.flatMap (TemplateToken.sent values))) =
      some captured)
    (hnames : ∀ capture ∈ captured, ∀ c ∈ capture.1.toList, c ≠ '\x7b' ∧ c ≠ '\x7d') :
    ∀ seg ∈ segs, IsWholeSegment (spell seg) := by
  induction segs generalizing captured with
  | nil => exact nofun
  | cons seg segs ih =>
    rw [List.forall_mem_cons] at hfits ⊢
    rw [List.map_cons, List.map_cons, matchSegments] at h
    split at h
    · rename_i name hname
      obtain ⟨others, hothers, rfl⟩ := Option.map_eq_some_iff.1 h
      rw [List.forall_mem_cons] at hnames
      exact ⟨isWholeSegment_of_inBraces? hname hnames.1, ih hfits.2 hothers hnames.2⟩
    · split at h
      · rename_i heq
        exact ⟨Or.inl (no_brace_of_eq_sent hfits.1 heq), ih hfits.2 h hnames⟩
      · cases h

/-- Whole segments give back what was sent for their variables. -/
theorem matchSegments_of_isWholeSegment (hfits : ∀ seg ∈ segs, ∀ token ∈ seg, token.Fits)
    (h : ∀ seg ∈ segs, IsWholeSegment (spell seg)) :
    matchSegments (segs.map spell) (segs.map (·.flatMap (TemplateToken.sent values))) =
      some ((segs.flatMap variableNames).map fun name => (name, values name)) := by
  induction segs with
  | nil => rfl
  | cons seg segs ih =>
    rw [List.forall_mem_cons] at hfits h
    have hrest := ih hfits.2 h.2
    rw [List.map_cons, List.map_cons, List.flatMap_cons, matchSegments]
    rcases tokens_of_isWholeSegment hfits.1 h.1 with hchars | ⟨name, rfl⟩
    · obtain ⟨hspell, hnames⟩ := literal_of_chars values hchars
      rw [inBraces?_eq_none (no_brace_of_eq_sent hfits.1 hspell)]
      simp only [if_pos hspell, hrest, hnames, List.nil_append]
    · have hbraces : inBraces? (String.ofList (spell [.var name])) = some (String.ofList name) := by
        rw [inBraces?_eq_some_iff, String.toList_ofList]
        exact List.append_nil _
      have hsent : [TemplateToken.var name].flatMap (TemplateToken.sent values) =
          (percentEncode (values (String.ofList name))).toList := List.flatMap_singleton _ _
      simp only [hbraces, hrest, hsent, String.ofList_toList, percentDecode_percentEncode,
        Option.map_some]
      rfl

end Matching

theorem no_brace_of_mem_variableNames {tokens : List TemplateToken}
    (hfits : ∀ token ∈ tokens, token.Fits) {name : String} (h : name ∈ variableNames tokens) :
    ∀ c ∈ name.toList, c ≠ '\x7b' ∧ c ≠ '\x7d' := by
  obtain ⟨token, htoken, hname⟩ := List.mem_filterMap.1 h
  cases token with
  | char c => cases hname
  | var inner =>
    cases hname
    rw [String.toList_ofList]
    exact fun c hc => (of_mem_isName (hfits _ htoken) hc).2

/-- **Paths of a client, matched by a server.** The server gets all variables back, in order and
with their values, exactly if every segment of the template is whole. -/
theorem matchRoute_requestPath_iff {template : String} {vars : List String}
    (h : pathVariables template = .ok vars) {values : String → String}
    (hvalues : ∀ name ∈ vars, values name ≠ "") :
    matchRoute template (requestPath values (urlPieces template)) =
        some (vars.map fun name => (name, values name)) ↔
      ∀ segment ∈ segments template.toList, IsWholeSegment segment := by
  obtain ⟨tokens, hfits, hspell, rfl⟩ := exists_tokens h
  have hsent : ∀ token ∈ tokens, TemplateToken.Splits (TemplateToken.sent values) token :=
    fun token htoken => TemplateToken.splits_sent fun name hname =>
      hvalues name (List.mem_filterMap.2 ⟨token, htoken, hname⟩)
  have hsegs : ∀ seg ∈ tokenSegments tokens, ∀ token ∈ seg, token.Fits :=
    fun seg hseg token htoken => hfits token (mem_of_mem_tokenSegments hseg htoken)
  have htemplate := segments_spell hfits hspell
  have hpath : segments (requestPath values (urlPieces template)).toList =
      (tokenSegments tokens).map (·.flatMap (TemplateToken.sent values)) := by
    rw [toList_requestPath_urlPieces values hfits hspell]
    exact segments_flatMap hsent
  rw [matchRoute, htemplate, hpath, List.forall_mem_map]
  constructor
  · intro hmatch
    refine isWholeSegment_of_matchSegments hsegs hmatch fun capture hcapture => ?_
    obtain ⟨name, hname, rfl⟩ := List.mem_map.1 hcapture
    exact no_brace_of_mem_variableNames hfits hname
  · intro hwhole
    rw [matchSegments_of_isWholeSegment hsegs hwhole, flatMap_variableNames_tokenSegments]

end TransportGen
